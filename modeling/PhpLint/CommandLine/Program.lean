import PhpLint.CommandLine.Arguments
import PhpLint.CommandLine.Environment
import PhpLint.CommandLine.Help
import PhpLint.Config.Read
import PhpLint.Config.Template
import PhpLint.Files.Disk

namespace PhpLint
namespace CommandLine

/-!
# The program

The program reads its arguments and does what they ask for.

The first positional argument may name a command, which reads the arguments after
it with its own flags and those of the program. Without a command the files are
checked.
-/

/-- What the program is called with. -/
structure Invocation where
  arguments : List Bytes := []
  environment : Environment := []
  version : Bytes := []
  commit : Bytes := []
  disk : Disk := {}

/-- The version with the commit, if there is one. -/
def Invocation.displayVersion (invocation : Invocation) : Bytes :=
  if invocation.commit.isEmpty then
    invocation.version
  else
    invocation.version ++ utf8 " (" ++ invocation.commit ++ utf8 ")"

inductive ProgramError where
  | usage (error : UsageError)
  | noHelpTopic (topic : Bytes)
  | find (error : FindError)
  | read (error : ConfigError)
  | run (error : RunError)
  | create (error : Template.Error)
deriving DecidableEq

def noTopicMessage (topic : Bytes) : Bytes :=
  utf8 "No help topic for '" ++ topic ++ utf8 "'"

namespace ProgramError

def message : ProgramError → Bytes
  | .usage error => error.message
  | .noHelpTopic topic => noTopicMessage topic
  | .find error => utf8 "find configuration file: " ++ error.message
  | .read error => utf8 "read configuration file: " ++ error.message
  | .run error => error.message
  | .create error => error.message

/-- What is known about an error besides its message. -/
def fields : ProgramError → List (Bytes × Bytes)
  | .run error => error.fields
  | _ => []

end ProgramError

/-- What a call of the program leaves behind. -/
structure Outcome where
  output : Bytes := []
  /-- What is written about the use of the program. -/
  notices : Bytes := []
  error? : Option ProgramError := none
  /-- The exit code, if the program ends before it can return an error. -/
  exitNow? : Option Nat := none
  log : Log := {}
  disk : Disk

def Outcome.exitCode (outcome : Outcome) : Nat :=
  outcome.exitNow?.getD (if outcome.error?.isSome then 1 else 0)

/-! ## Commands -/

inductive Command where
  | init
  | version
  | help
  | completion
  | helpAll
deriving DecidableEq

namespace Command

def all : List Command :=
  [.init, .version, .help, .completion, .helpAll]

def names : Command → List Bytes
  | .init => [utf8 "init"]
  | .version => [utf8 "version"]
  | .help => [utf8 "help", utf8 "h"]
  | .completion => [utf8 "completion"]
  | .helpAll => [utf8 "help-all"]

def ofName? (name : Bytes) : Option Command :=
  all.find? fun command => command.names.contains name

/-- The flags of a command, besides those of the program. -/
def ownFlags : Command → List Flag
  | .init => [.help]
  | .version => [.json, .help]
  | .help => []
  | .completion => [.help]
  | .helpAll => [.help]

end Command

def sharedFlags : List Flag :=
  [.logLevel, .config, .format, .noColour]

/-- The flags of the program. There is none for the version if the version is empty. -/
def programFlags (version : Bytes) : List Flag :=
  sharedFlags ++ [.help] ++ (if version.isEmpty then [] else [.version])

/-- The value of a flag, or of an environment variable if the flag is not given. -/
def valueOr (value? : Option Bytes) (environment : Environment) (name : String) : Bytes :=
  value?.getD (environment.value (utf8 name))

def logLevelName (invocation : Invocation) (values : FlagValues) : Bytes :=
  valueOr values.logLevel? invocation.environment "PHPSANITY_LOG_LEVEL"

def configPath (invocation : Invocation) (values : FlagValues) : Bytes :=
  valueOr values.config? invocation.environment "PHPSANITY_CONFIG"

/-! ## Actions -/

/-- The options of a run. -/
def runOptions (invocation : Invocation) (values : FlagValues) (paths : List Bytes) :
    RunOptions :=
  let colours := ColourSettings.ofEnvironment invocation.environment values.noColour
  { paths := paths
    format := values.format?.getD (utf8 "text")
    noColour := colours.noColour
    forceColour := colours.forceColour
    version := invocation.version }

/-- Checks files. There is no outcome if that breaks down. -/
def check (invocation : Invocation) (values : FlagValues) (paths : List Bytes) :
    Option Outcome :=
  let files := invocation.disk.view
  let log := ({} : Log).setLevel (logLevelName invocation values)
  let failed (error : ProgramError) : Option Outcome :=
    some { error? := some error, log := log, disk := invocation.disk }
  match Config.find files (configPath invocation values) with
  | .error error => failed (.find error)
  | .ok path =>
    match ({} : Config).read files path with
    | (_, .brokeDown) => none
    | (_, .failed error) => failed (.read error)
    | (config, .done) =>
      (run files config (runOptions invocation values paths) {}).map fun outcome =>
        { output := outcome.output
          error? := outcome.error?.map .run
          log := log.record outcome.entries
          disk := invocation.disk }

/-- Where a new configuration file is created. -/
def newConfigPath (invocation : Invocation) (values : FlagValues) (positional : List Bytes) :
    Bytes :=
  let given := positional.headD []
  if !given.isEmpty then given
  else if (configPath invocation values).isEmpty then utf8 ".phpsanity.yaml"
  else configPath invocation values

def createEntry (path : Bytes) : LogEntry where
  level := .debug
  message := utf8 "create a configuration file"
  fields := [(utf8 "config", .text path)]

/-- Creates a configuration file. -/
def createConfig (invocation : Invocation) (values : FlagValues) (positional : List Bytes) :
    Outcome :=
  let path := newConfigPath invocation values positional
  let log := (({} : Log).setLevel (logLevelName invocation values)).record [createEntry path]
  match Template.create invocation.disk path with
  | .ok disk => { log := log, disk := disk }
  | .error error => { error? := some (.create error), log := log, disk := invocation.disk }

/-- The version as text or as JSON. -/
def versionText (invocation : Invocation) (asJson : Bool) : Bytes :=
  let version := invocation.displayVersion
  if asJson then
    (Json.object [
      (utf8 "name", .text (utf8 "phpsanity")),
      (utf8 "sha", .text invocation.commit),
      (utf8 "version", .text version)]).document
  else
    (if version.isEmpty then utf8 "unknown" else version) ++ utf8 "\n"

/-- The help about a topic. Only the help of the program itself has a text of its own. -/
def helpOn (invocation : Invocation) (topic : Bytes) : Except ProgramError Bytes :=
  if topic.isEmpty then .ok (Help.text invocation.displayVersion)
  else if (Command.ofName? topic).isSome then .ok []
  else .error (.noHelpTopic topic)

/-- Runs a command with the arguments after its name. -/
def runCommand (invocation : Invocation) (values : FlagValues) (command : Command)
    (arguments : List Bytes) : Outcome :=
  let disk := invocation.disk
  match parse (sharedFlags ++ command.ownFlags) Command.help.names values arguments with
  | .error error =>
    { notices := utf8 "Incorrect Usage: " ++ error.message ++ utf8 "\n\n"
      error? := some (.usage error)
      disk := disk }
  | .ok parsed =>
    let topic := parsed.positional.headD []
    if command ≠ .help && (parsed.values.help || Command.help.names.contains topic) then
      { disk := disk }
    else
      match command with
      | .init => createConfig invocation parsed.values parsed.positional
      | .version => { output := versionText invocation parsed.values.json, disk := disk }
      | .help =>
        match helpOn invocation topic with
        | .ok text => { output := text, disk := disk }
        | .error error =>
          { notices := error.message ++ utf8 "\n", exitNow? := some 3, disk := disk }
      | .completion => { disk := disk }
      | .helpAll => { disk := disk }

/-- Runs the program. There is no outcome if it breaks down. -/
def runProgram (invocation : Invocation) : Option Outcome :=
  let version := invocation.displayVersion
  let disk := invocation.disk
  let commandNames := Command.all.flatMap Command.names
  match parse (programFlags version) commandNames {} invocation.arguments with
  | .error error =>
    some {
      output := Help.text version
      notices := utf8 "Incorrect Usage: " ++ error.message ++ utf8 "\n\n"
      error? := some (.usage error)
      disk := disk }
  | .ok parsed =>
    let first := parsed.positional.headD []
    if parsed.values.help then
      match helpOn invocation first with
      | .ok text => some { output := text, disk := disk }
      | .error error => some { error? := some error, disk := disk }
    else if parsed.values.version then
      some { output := utf8 "phpsanity version " ++ version ++ utf8 "\n", disk := disk }
    else
      match Command.ofName? first with
      | some command =>
        some (runCommand invocation parsed.values command (parsed.positional.drop 1))
      | none => check invocation parsed.values parsed.positional

/-! ## What is written to the error stream -/

/-- The last entry of a program that fails. -/
def failureEntry (error : ProgramError) : LogEntry where
  level := .fatal
  message := utf8 "phpsanity failed"
  fields := (utf8 "error", .text error.message) ::
    error.fields.map fun (name, value) => (name, .text value)

/-- The notices, and the log as lines of text. An error is logged unless it is about findings,
which are in the report. -/
def Outcome.errorText (outcome : Outcome) (version : Bytes) : Bytes :=
  let log := match outcome.error? with
    | none => outcome.log
    | some (.run .issuesFound) => outcome.log
    | some error => outcome.log.record [failureEntry error]
  outcome.notices ++ log.entries.flatMap fun entry => entry.line version

end CommandLine
end PhpLint
