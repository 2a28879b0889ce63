import PhpLint.Files.Basic

namespace PhpLint

/-!
# Walking through directories

A walk visits what stands at its root and, if that is a directory, everything
below it: the names of each directory in the order of their bytes, and what lies
in a subdirectory directly after the subdirectory itself. What cannot be looked
at is a visit of its own, so a walk never fails.
-/

inductive Visit where
  | file (path : Bytes)
  | directory (path : Bytes)
  | unreachable (path : Bytes) (error : FileError)
deriving DecidableEq

namespace Files

/-- The visits of what lies below a directory. -/
def walkBelow (files : Files) : Nat → Bytes → List Visit
  | 0, _ => []
  | fuel + 1, directory =>
    match files.names directory with
    | .error error => [.unreachable directory error]
    | .ok names =>
      names.flatMap fun name =>
        let path := joinPath directory name
        match files.linkKind path with
        | .error error => [.unreachable path error]
        | .ok .file => [.file path]
        | .ok .directory => .directory path :: walkBelow files fuel path

/-- The visits of a walk. The root is reported as it was given. -/
def walk (files : Files) (root : Bytes) : List Visit :=
  match files.linkKind root with
  | .error error => [.unreachable root error]
  | .ok .file => [.file root]
  | .ok .directory => .directory root :: walkBelow files files.depth root

end Files
end PhpLint
