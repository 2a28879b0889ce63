import PhpLint.Text.Blank
import PhpLint.Text.Quoted

namespace PhpLint
namespace CommandLine

/-!
# Arguments of a command

Flags and positional arguments come in any order.

Every argument is trimmed before it is looked at. The name of a command ends the
flags: it and everything after it is positional and stays as it was given.
-/

inductive Flag where
  | logLevel
  | config
  | format
  | noColour
  | help
  | version
  | json
deriving DecidableEq

namespace Flag

def names : Flag → List Bytes
  | .logLevel => [utf8 "log-level"]
  | .config => [utf8 "config", utf8 "c"]
  | .format => [utf8 "format"]
  | .noColour => [utf8 "no-color"]
  | .help => [utf8 "help", utf8 "h"]
  | .version => [utf8 "version", utf8 "v"]
  | .json => [utf8 "json", utf8 "j"]

/-- Whether the flag is either on or off and takes no further argument. -/
def isSwitch : Flag → Bool
  | .logLevel => false
  | .config => false
  | .format => false
  | _ => true

end Flag

/-- The flags that have been given. -/
structure FlagValues where
  logLevel? : Option Bytes := none
  config? : Option Bytes := none
  format? : Option Bytes := none
  noColour : Bool := false
  help : Bool := false
  version : Bool := false
  json : Bool := false
deriving DecidableEq

namespace FlagValues

def setText (values : FlagValues) (flag : Flag) (value : Bytes) : FlagValues :=
  match flag with
  | .logLevel => { values with logLevel? := some value }
  | .config => { values with config? := some value }
  | .format => { values with format? := some value }
  | _ => values

def setSwitch (values : FlagValues) (flag : Flag) (value : Bool) : FlagValues :=
  match flag with
  | .noColour => { values with noColour := value }
  | .help => { values with help := value }
  | .version => { values with version := value }
  | .json => { values with json := value }
  | _ => values

end FlagValues

inductive UsageError where
  | unknownFlag (name : Bytes)
  | missingArgument (flag : Bytes)
  | badSwitch (name value : Bytes)
deriving DecidableEq

def UsageError.message : UsageError → Bytes
  | .unknownFlag name => utf8 "flag provided but not defined: -" ++ name
  | .missingArgument flag => utf8 "flag needs an argument: " ++ flag
  | .badSwitch name value =>
    utf8 "invalid value " ++ Quoted.encode value ++ utf8 " for flag -" ++ name ++
      utf8 ": parse error"

/-- The truth value that a text means. -/
def truthValue? (text : Bytes) : Option Bool :=
  if (["1", "t", "T", "TRUE", "true", "True"].map utf8).contains text then some true
  else if (["0", "f", "F", "FALSE", "false", "False"].map utf8).contains text then some false
  else none

def dash : UInt8 :=
  Bytes.ascii '-'

/-- The letters among the first 256 characters of Unicode. -/
def isLetter (b : UInt8) : Bool :=
  (0x41 ≤ b && b ≤ 0x5A) || (0x61 ≤ b && b ≤ 0x7A) || b = 0xAA || b = 0xB5 || b = 0xBA ||
    (0xC0 ≤ b && b ≠ 0xD7 && b ≠ 0xF7)

/-- What a trimmed argument is. -/
inductive ArgumentKind where
  | empty
  /-- Everything after it is positional. -/
  | separator
  | positional
  | lone
  /-- It and everything after it is positional. -/
  | number
  | flag (name value : Bytes)
deriving DecidableEq

/-- The name of a flag, and its value after an equals sign. -/
def nameAndValue (text : Bytes) : Bytes × Bytes :=
  (Bytes.cut? (utf8 "=") text).getD (text, [])

def kindOf (argument : Bytes) : ArgumentKind :=
  match argument with
  | [] => .empty
  | first :: rest =>
    if argument = utf8 "--" then
      .separator
    else if first ≠ dash then
      .positional
    else
      match rest with
      | [] => .lone
      | second :: body =>
        if second = dash then
          .flag (nameAndValue body).1 (nameAndValue body).2
        else if isLetter second then
          .flag (nameAndValue rest).1 (nameAndValue rest).2
        else
          .number

/-- The flags and the positional arguments of a command. -/
structure Parsed where
  values : FlagValues
  positional : List Bytes
deriving DecidableEq

/-- Reads arguments. `flags` are the flags that exist, and `commands` the names that end
them. -/
def parse (flags : List Flag) (commands : List Bytes) :
    FlagValues → List Bytes → Except UsageError Parsed
  | values, [] => .ok ⟨values, []⟩
  | values, given :: rest =>
    let argument := Bytes.trim given
    match kindOf argument with
    | .empty => .ok ⟨values, []⟩
    | .separator => .ok ⟨values, rest⟩
    | .lone => .ok ⟨values, [argument]⟩
    | .number => .ok ⟨values, given :: rest⟩
    | .positional =>
      if commands.contains argument then
        .ok ⟨values, given :: rest⟩
      else
        (parse flags commands values rest).map
          fun parsed => { parsed with positional := argument :: parsed.positional }
    | .flag name value =>
      match flags.find? fun flag => flag.names.contains name with
      | none => .error (.unknownFlag name)
      | some flag =>
        if flag.isSwitch then
          match truthValue? (if value.isEmpty then utf8 "true" else value) with
          | none => .error (.badSwitch name value)
          | some on => parse flags commands (values.setSwitch flag on) rest
        else if value.isEmpty then
          match rest with
          | [] => .error (.missingArgument argument)
          | next :: later => parse flags commands (values.setText flag next) later
        else
          parse flags commands (values.setText flag value) rest

end CommandLine
end PhpLint
