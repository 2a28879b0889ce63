import PhpLint.Files.Basic

namespace PhpLint

/-!
# The files below a working directory

Paths are resolved part by part, as an operating system does it: every part but
the last has to be a directory, also before a double dot, and a slash at the end
asks for a directory. What lies outside of the working directory is not known;
it counts as directories without content.
-/

namespace Disk

/-- A file with its content, or a directory. -/
inductive Item where
  | file (content : Bytes)
  | directory
deriving DecidableEq

/-- Where a path has led so far. -/
inductive Place where
  | inside (parts : List Bytes)
  | outside
deriving DecidableEq

/-- The longest name that a directory can hold. -/
def nameLimit : Nat :=
  255

/-- The longest path that can be resolved. -/
def pathLimit : Nat :=
  4095

end Disk

/-- The items below the working directory, which itself is not listed. -/
structure Disk where
  items : List (List Bytes × Disk.Item) := []
deriving DecidableEq

namespace Disk

def item? (disk : Disk) (parts : List Bytes) : Option Item :=
  if parts = [] then
    some .directory
  else
    (disk.items.find? fun item => item.1 = parts).map Prod.snd

/-- What stands at a place. -/
def at? (disk : Disk) : Place → Option Item
  | .inside parts => disk.item? parts
  | .outside => some .directory

/-- Follows one part of a path from a place. -/
def follow (disk : Disk) (place : Place) (part : Bytes) : Except FileFault Place :=
  match disk.at? place with
  | none => .error .noEntry
  | some (.file _) => .error .notDirectory
  | some .directory =>
    if part = [] || part = Location.dot then
      .ok place
    else if part = Location.dotDot then
      match place with
      | .inside (first :: rest) => .ok (.inside (first :: rest).dropLast)
      | _ => .ok .outside
    else if nameLimit < part.length then
      .error .nameTooLong
    else
      match place with
      | .inside parts => .ok (.inside (parts ++ [part]))
      | .outside => .error .noEntry

/-- The place a path leads to, whose last part need not exist. -/
def resolve (disk : Disk) (path : Bytes) : Except FileFault Place :=
  if (0 : UInt8) ∈ path then
    .error .invalidPath
  else if path = [] then
    .error .noEntry
  else if pathLimit < path.length then
    .error .nameTooLong
  else
    let start : Place := if path.head? = some Bytes.slash then .outside else .inside []
    (Bytes.split Bytes.slash path).foldlM (disk.follow) start

/-- What stands at a path. -/
def lookup (disk : Disk) (action : FileAction) (path : Bytes) : Except FileError Item :=
  match disk.resolve path with
  | .error fault => .error (.failed action path fault)
  | .ok place =>
    match disk.at? place with
    | some item => .ok item
    | none => .error (.failed action path .noEntry)

def Item.kind : Item → FileKind
  | .file _ => .file
  | .directory => .directory

/-- The names of the items that lie directly in a directory. -/
def namesIn (disk : Disk) (parts : List Bytes) : List Bytes :=
  sortNames ((disk.items.filter fun item => item.1.dropLast = parts).map
    fun item => item.1.getLastD [])

def read (disk : Disk) (path : Bytes) : Except FileError Bytes :=
  match disk.lookup .opening path with
  | .error error => .error error
  | .ok .directory => .error (.failed .reading path .isDirectory)
  | .ok (.file content) => .ok content

def view (disk : Disk) : Files where
  kind := fun path => (disk.lookup .looking path).map Item.kind
  linkKind := fun path => (disk.lookup .lookingAtLink path).map Item.kind
  read := disk.read
  names := fun path =>
    match disk.resolve path with
    | .error fault => .error (.failed .opening path fault)
    | .ok .outside => .ok []
    | .ok (.inside parts) => .ok (disk.namesIn parts)
  depth := (disk.items.map fun item => item.1.length).foldl max 0 + 1

/-- Adds an item, or takes the place of one with the same parts. -/
def put (disk : Disk) (parts : List Bytes) (item : Item) : Disk :=
  if disk.items.any fun other => other.1 = parts then
    { items := disk.items.map fun other => if other.1 = parts then (parts, item) else other }
  else
    { items := disk.items ++ [(parts, item)] }

/-- Adds an item and the directories above it. -/
def putWithParents (disk : Disk) (parts : List Bytes) (item : Item) : Disk :=
  let parents := ((List.range parts.length).drop 1).map parts.take
  let withParents := parents.foldl
    (fun result parent =>
      if (result.item? parent).isSome then result else result.put parent .directory)
    disk
  if parts = [] then withParents else withParents.put parts item

/-- Writes a file into a directory that exists. A path that asks for a directory names no
file. -/
def write (disk : Disk) (path content : Bytes) : Except FileError Disk :=
  let bare := (path.reverse.dropWhile fun b => b == Bytes.slash).reverse
  match disk.resolve (if bare = [] then path else bare) with
  | .error fault => .error (.failed .opening path fault)
  | .ok .outside => .error (.failed .opening path .isDirectory)
  | .ok (.inside parts) =>
    if path ≠ bare || disk.item? parts = some .directory then
      .error (.failed .opening path .isDirectory)
    else
      .ok (disk.put parts (.file content))

instance : FileStore Disk where
  view := Disk.view
  write := Disk.write

end Disk
end PhpLint
