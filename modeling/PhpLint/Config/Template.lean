import PhpLint.Files.Basic

namespace PhpLint

/-!
# The commented configuration file

A new project starts from this file. A file or directory that exists is left
alone.
-/

namespace Template

def content : Bytes :=
  utf8 (
    "# phpsanity - heuristic syntax checks for PHP files\n" ++
    "# These settings are used only when no file is passed as an argument.\n" ++
    "# root: app\n" ++
    "# extension: .php\n" ++
    "# ignore_files:\n" ++
    "#   - pattern: ^app/vendor/\n" ++
    "#     pattern_format: regexp\n" ++
    "#   - pattern: app/views/*.php\n" ++
    "#     pattern_format: glob\n")

/-- Why the file was not created. -/
inductive Error where
  | unchecked (error : FileError)
  | uncreated (error : FileError)
deriving DecidableEq

def Error.message : Error → Bytes
  | .unchecked error => utf8 "check if a configuration file exists: " ++ error.message
  | .uncreated error => utf8 "create a configuration file: " ++ error.message

def Error.cause : Error → FileError
  | .unchecked error => error
  | .uncreated error => error

/-- Creates the file unless there is something at the path. -/
def create {σ : Type} [FileStore σ] (store : σ) (path : Bytes) : Except Error σ :=
  match (FileStore.view store).exists? path with
  | .error error => .error (.unchecked error)
  | .ok true => .ok store
  | .ok false =>
    match FileStore.write store path content with
    | .error error => .error (.uncreated error)
    | .ok written => .ok written

end Template
end PhpLint
