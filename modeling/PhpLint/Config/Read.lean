import PhpLint.Config.Decode
import PhpLint.Files.Basic

namespace PhpLint

/-!
# Finding and reading configuration files

A configuration file is read into a configuration: its settings are applied, and
then the whole list of ignored files is prepared. Default values are only filled
in if all of that succeeds; what was applied before a failure remains.
-/

/-- Why a configuration file could not be found. -/
structure FindError where
  candidate : Bytes
  error : FileError
deriving DecidableEq

def FindError.message (error : FindError) : Bytes :=
  utf8 "check if " ++ error.candidate ++ utf8 " exists: " ++ error.error.message

inductive ConfigError where
  | unopened (error : FileError)
  | malformed
  | unfit (problems : List SettingProblem)
  | unprepared (error : PatternError)
deriving DecidableEq

namespace ConfigError

/-- The message. There is one text for everything that is not YAML. -/
def message : ConfigError → Bytes
  | .unopened error => utf8 "open a configuration file: " ++ error.message
  | .malformed => utf8 "decode a configuration file as YAML: yaml: *"
  | .unfit problems =>
    utf8 "decode a configuration file as YAML: yaml: unmarshal errors:" ++
      problems.flatMap fun problem => utf8 "\n  " ++ problem.message
  | .unprepared error => utf8 "initialize ignore_files: " ++ error.message

end ConfigError

/-- How reading a configuration ends. It breaks down at a missing element of the list of
ignored files. -/
inductive ReadResult where
  | done
  | failed (error : ConfigError)
  | brokeDown
deriving DecidableEq

namespace Config

/-- Where a configuration file is looked for, in this order. -/
def candidates : List Bytes :=
  [utf8 ".phpsanity.yaml", utf8 ".phpsanity.yml", utf8 ".github/phpsanity.yaml",
    utf8 ".github/phpsanity.yml"]

/-- The first candidate that exists, or an empty path. -/
def firstExisting (files : Files) : List Bytes → Except FindError Bytes
  | [] => .ok []
  | candidate :: rest =>
    match files.exists? candidate with
    | .error error => .error ⟨candidate, error⟩
    | .ok true => .ok candidate
    | .ok false => firstExisting files rest

/-- The path of the configuration file. A path that is given is taken as it is. -/
def find (files : Files) (path : Bytes) : Except FindError Bytes :=
  if path.isEmpty then firstExisting files candidates else .ok path

/-- What tells the settings of a text, and what is wrong with it. -/
abbrev Decoder := Bytes → Settings × Option ConfigError

/-- The settings of a YAML text. -/
def decode (text : Bytes) : Settings × Option ConfigError :=
  match Yaml.readDocument text with
  | none => ({}, some .malformed)
  | some none => ({}, none)
  | some (some document) =>
    let progress := Settings.ofDocument ((text.length + 2) * (text.length + 2)) document
    if progress.aborted then
      (progress.value, some .malformed)
    else if progress.problems.isEmpty then
      (progress.value, none)
    else
      (progress.value, some (.unfit progress.problems))

/-- Prepares the list of ignored files and fills in the default values. -/
def complete (config : Config) : Config × ReadResult :=
  let (ignoreFiles, failure?) := prepareAll config.ignoreFiles
  let prepared := { config with ignoreFiles := ignoreFiles }
  match failure? with
  | some .elementMissing => (prepared, .brokeDown)
  | some (.pattern error) => (prepared, .failed (.unprepared error))
  | none => (prepared.withDefaults, .done)

/-- Reads a text into a configuration. -/
def readTextBy (decoder : Decoder) (config : Config) (text : Bytes) : Config × ReadResult :=
  let (settings, error?) := decoder text
  let applied := config.apply settings
  match error? with
  | some error => (applied, .failed error)
  | none => applied.complete

/-- Reads the file at a path into a configuration, with whatever tells its settings. Without a
path only the default values are filled in. -/
def readBy (decoder : Decoder) (config : Config) (files : Files) (path : Bytes) :
    Config × ReadResult :=
  if path.isEmpty then
    (config.withDefaults, .done)
  else
    match files.read path with
    | .error (.failed .reading _ _) => (config, .failed .malformed)
    | .error error => (config, .failed (.unopened error))
    | .ok text => config.readTextBy decoder text

/-- Reads the file at a path as YAML. -/
def read (config : Config) (files : Files) (path : Bytes) : Config × ReadResult :=
  config.readBy decode files path

end Config
end PhpLint
