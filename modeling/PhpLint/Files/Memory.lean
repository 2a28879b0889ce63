import PhpLint.Files.Basic

namespace PhpLint

/-!
# A store of files in memory

The store maps locations to entries. The relative locations `.` and `..` both
mean the top directory. Writing a new file makes the directories above it; a
file that stands in the way becomes a directory and keeps its content, which is
what reading a directory yields. Removing a directory leaves the entries below
it, which can still be read but are no longer listed.
-/

namespace Memory

structure Entry where
  location : Location
  content : Bytes := []
  isDirectory : Bool := false
  /-- Whether the directory above names this entry. -/
  listed : Bool := true
deriving DecidableEq

def top : Location :=
  ⟨true, []⟩

/-- The location under which an entry is kept. -/
def keep (location : Location) : Location :=
  if !location.rooted && (location.parts = [] || location.parts = [Location.dotDot]) then
    top
  else
    location

def locate (path : Bytes) : Location :=
  keep (Location.ofPath path)

/-- The location of the directory that names an entry. -/
def directoryOf (location : Location) : Location :=
  keep location.parent

end Memory

structure Memory where
  entries : List Memory.Entry := [{ location := Memory.top, isDirectory := true }]
  readOnly : Bool := false
deriving DecidableEq

namespace Memory

def lookup? (memory : Memory) (location : Location) : Option Entry :=
  memory.entries.find? fun entry => entry.location = location

/-- The entry at a path, or the error of opening it. -/
def openEntry (memory : Memory) (path : Bytes) : Except FileError Entry :=
  match memory.lookup? (locate path) with
  | some entry => .ok entry
  | none => .error (.failed .opening (locate path).path .absent)

def kindOf (memory : Memory) (path : Bytes) : Except FileError FileKind :=
  (memory.openEntry path).map fun entry => if entry.isDirectory then .directory else .file

/-- The sorted names of the entries that are listed in a directory. -/
def namesIn (memory : Memory) (path : Bytes) : List Bytes :=
  let named := memory.entries.filter fun entry =>
    entry.listed && entry.location != top && directoryOf entry.location = locate path
  sortNames (named.map fun entry => entry.location.base)

/-- One more than the greatest number of parts of a location. -/
def depth (memory : Memory) : Nat :=
  (memory.entries.map fun entry => entry.location.parts.length).foldl max 0 + 1

def view (memory : Memory) : Files where
  kind := memory.kindOf
  linkKind := memory.kindOf
  read := fun path => (memory.openEntry path).map Entry.content
  names := fun path => .ok (memory.namesIn path)
  depth := memory.depth

/-- Changes the entries at a location. -/
def update (memory : Memory) (location : Location) (change : Entry → Entry) : Memory :=
  { memory with
    entries := memory.entries.map fun entry =>
      if entry.location = location then change entry else entry }

/-- Makes a location a directory, and what is missing above it. -/
def ensureDirectory : Nat → Memory → Location → Memory
  | 0, memory, _ => memory
  | fuel + 1, memory, location =>
    match memory.lookup? location with
    | some _ => memory.update location fun entry => { entry with isDirectory := true }
    | none =>
      ensureDirectory fuel
        { memory with
          entries := memory.entries ++ [{ location := location, isDirectory := true }] }
        (directoryOf location)

/-- Adds an entry where there is none, and the directories above it. -/
def add (memory : Memory) (entry : Entry) : Memory :=
  ensureDirectory (entry.location.parts.length + 1)
    { memory with entries := memory.entries ++ [entry] } (directoryOf entry.location)

/-- Writes a file, whether or not the store may be written. -/
def put (memory : Memory) (path content : Bytes) : Memory :=
  let location := locate path
  match memory.lookup? location with
  | some _ => memory.update location fun entry => { entry with content := content }
  | none => memory.add { location := location, content := content }

/-- Makes a directory unless something is there. -/
def makeDirectory (memory : Memory) (path : Bytes) : Memory :=
  let location := locate path
  match memory.lookup? location with
  | some _ => memory
  | none => memory.add { location := location, isDirectory := true }

def write (memory : Memory) (path content : Bytes) : Except FileError Memory :=
  if memory.readOnly then .error .denied else .ok (memory.put path content)

def remove (memory : Memory) (path : Bytes) : Except FileError Memory :=
  let location := locate path
  if memory.readOnly then
    .error .denied
  else
    match memory.lookup? location with
    | none => .error (.failed .removing location.path .absent)
    | some _ =>
      let others := memory.entries.filter fun entry => entry.location != location
      .ok { memory with
        entries := others.map fun entry =>
          if directoryOf entry.location = location then
            { entry with listed := false }
          else
            entry }

instance : FileStore Memory where
  view := Memory.view
  write := Memory.write

end Memory
end PhpLint
