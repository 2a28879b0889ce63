import PhpLint.Files.Location

namespace PhpLint

/-!
# What a program asks of files, and how the answers fail

`Files` is a view of some store: every question is a function of a path. The
checks, the search and the configuration only ever see a view, so they behave
alike on every store.
-/

inductive FileKind where
  | file
  | directory
deriving DecidableEq

/-- What was being done with a path. -/
inductive FileAction where
  | opening
  | reading
  | looking
  | lookingAtLink
  | removing
deriving DecidableEq

/-- Why it could not be done. -/
inductive FileFault where
  | absent
  | noEntry
  | notDirectory
  | isDirectory
  | nameTooLong
  | invalidPath
deriving DecidableEq

inductive FileError where
  | denied
  | failed (action : FileAction) (path : Bytes) (fault : FileFault)
deriving DecidableEq

def FileAction.name : FileAction → Bytes
  | .opening => utf8 "open"
  | .reading => utf8 "read"
  | .looking => utf8 "stat"
  | .lookingAtLink => utf8 "lstat"
  | .removing => utf8 "remove"

def FileFault.description : FileFault → Bytes
  | .absent => utf8 "file does not exist"
  | .noEntry => utf8 "no such file or directory"
  | .notDirectory => utf8 "not a directory"
  | .isDirectory => utf8 "is a directory"
  | .nameTooLong => utf8 "file name too long"
  | .invalidPath => utf8 "invalid argument"

namespace FileError

def message : FileError → Bytes
  | .denied => utf8 "operation not permitted"
  | .failed action path fault =>
    action.name ++ utf8 " " ++ path ++ utf8 ": " ++ fault.description

/-- Whether the error says that there is nothing at the path. -/
def isAbsence : FileError → Bool
  | .failed _ _ .absent => true
  | .failed _ _ .noEntry => true
  | _ => false

end FileError

/-- A view of a store of files. -/
structure Files where
  kind : Bytes → Except FileError FileKind
  /-- The kind of what stands at a path that a search has come to. -/
  linkKind : Bytes → Except FileError FileKind
  read : Bytes → Except FileError Bytes
  /-- The sorted names in a directory. -/
  names : Bytes → Except FileError (List Bytes)
  /-- A bound on the number of directories that lie inside each other. -/
  depth : Nat

namespace Files

/-- Whether there is something at a path. -/
def exists? (files : Files) (path : Bytes) : Except FileError Bool :=
  match files.kind path with
  | .ok _ => .ok true
  | .error error => if error.isAbsence then .ok false else .error error

end Files

/-- A store of files that can be written. -/
class FileStore (σ : Type) where
  view : σ → Files
  write : σ → Bytes → Bytes → Except FileError σ

/-- Puts names into the order of their bytes. -/
def sortNames (names : List Bytes) : List Bytes :=
  names.mergeSort fun a b => !Bytes.before b a

end PhpLint
