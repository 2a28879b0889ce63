import PhpLint.Pattern

namespace PhpLint

/-!
# Configurations

A configuration tells where files are searched, by which extension, and which of
them are ignored.

An element of the list of ignored files may be missing altogether, because a list
in a configuration file may hold null. Nothing can be matched with a missing
element, and neither can it be prepared.
-/

structure Config where
  root : Bytes := []
  extension : Bytes := []
  ignoreFiles : List (Option Pattern) := []

/-- Why it cannot be told whether a file is ignored. -/
inductive IgnoreFailure where
  | elementMissing
  | pattern (error : PatternError)
deriving DecidableEq

namespace Config

def defaultRoot : Bytes :=
  utf8 "app"

def defaultExtension : Bytes :=
  utf8 ".php"

/-- Fills empty fields with the default values. -/
def withDefaults (config : Config) : Config :=
  { config with
    root := if config.root.isEmpty then defaultRoot else config.root
    extension := if config.extension.isEmpty then defaultExtension else config.extension }

/-- The configuration without a configuration file. -/
def standard : Config :=
  ({} : Config).withDefaults

/-- Whether one of the elements matches a path. Later elements are not asked once an
element matches or fails. -/
def anyMatch (path : Bytes) : List (Option Pattern) → Except IgnoreFailure Bool
  | [] => .ok false
  | none :: _ => .error .elementMissing
  | some pattern :: rest =>
    match pattern.isMatch path with
    | .error error => .error (.pattern error)
    | .ok true => .ok true
    | .ok false => anyMatch path rest

def isIgnored (config : Config) (path : Bytes) : Except IgnoreFailure Bool :=
  anyMatch path config.ignoreFiles

/-- Prepares the elements from left to right and stops at the first that fails. The elements
up to there are prepared in the result. -/
def prepareAll : List (Option Pattern) → List (Option Pattern) × Option IgnoreFailure
  | [] => ([], none)
  | none :: rest => (none :: rest, some .elementMissing)
  | some pattern :: rest =>
    match pattern.prepare with
    | .error error => (some pattern :: rest, some (.pattern error))
    | .ok prepared =>
      let (others, failure?) := prepareAll rest
      (some prepared :: others, failure?)

end Config
end PhpLint
