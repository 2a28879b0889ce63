import PhpLint.Text.Bytes

namespace PhpLint

/-!
# Locations of files

A path is a list of parts between slashes. Empty parts and single dots name the
directory they stand in, and a double dot takes back the part before it. What is
left is the location of the path: two paths with the same location name the same
file. A location is relative unless the path starts with a slash, and a relative
location may begin with double dots that have nothing to take back.
-/

structure Location where
  rooted : Bool
  parts : List Bytes
deriving DecidableEq

namespace Location

def dot : Bytes :=
  utf8 "."

def dotDot : Bytes :=
  utf8 ".."

/-- Puts a part on the parts before it, of which the last comes first. -/
def addPart (rooted : Bool) (before : List Bytes) (part : Bytes) : List Bytes :=
  if part = [] || part = dot then
    before
  else if part = dotDot then
    match before with
    | [] => if rooted then [] else [dotDot]
    | last :: rest => if last = dotDot then dotDot :: last :: rest else rest
  else
    part :: before

/-- The location that a path names. -/
def ofPath (path : Bytes) : Location :=
  let rooted := path.head? == some Bytes.slash
  ⟨rooted, ((Bytes.split Bytes.slash path).foldl (addPart rooted) []).reverse⟩

/-- The shortest path of a location. -/
def path (location : Location) : Bytes :=
  if location.rooted then
    Bytes.slash :: Bytes.join [Bytes.slash] location.parts
  else if location.parts = [] then
    dot
  else
    Bytes.join [Bytes.slash] location.parts

/-- The last part, or nothing if there is no part. -/
def base (location : Location) : Bytes :=
  location.parts.getLastD []

/-- The location of a name in a directory. -/
def child (location : Location) (name : Bytes) : Location :=
  ⟨location.rooted, (addPart location.rooted location.parts.reverse name).reverse⟩

def parent (location : Location) : Location :=
  ⟨location.rooted, location.parts.dropLast⟩

end Location

/-- The path of a name in the directory at another path. -/
def joinPath (directory name : Bytes) : Bytes :=
  ((Location.ofPath directory).child name).path

end PhpLint
