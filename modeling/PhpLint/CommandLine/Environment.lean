import PhpLint.Run

namespace PhpLint

/-!
# Environment variables

They are read by name, and some of them decide about colours.
-/

/-- Names of variables with their values. -/
abbrev Environment := List (Bytes × Bytes)

namespace Environment

/-- The value of a variable. A variable that is not set is empty. -/
def value (environment : Environment) (name : Bytes) : Bytes :=
  ((environment.find? fun entry => entry.1 = name).map Prod.snd).getD []

end Environment

structure ColourSettings where
  /-- Whether the output is shown by a service that understands colours. -/
  onActions : Bool
  noColour : Bool
deriving DecidableEq

namespace ColourSettings

def actionsVariable : Bytes :=
  utf8 "GITHUB_ACTIONS"

def noColourVariable : Bytes :=
  utf8 "NO_COLOR"

/-- The variables that are looked at, in the order of their names. -/
def consulted : List Bytes :=
  [actionsVariable, noColourVariable]

/-- The settings of an environment. It can switch colours off but never on again. -/
def ofEnvironment (environment : Environment) (noColour : Bool) : ColourSettings where
  onActions := environment.value actionsVariable = utf8 "true"
  noColour := noColour || !(environment.value noColourVariable).isEmpty

/-- Colours are forced where they are understood, unless they are switched off. -/
def forceColour (settings : ColourSettings) : Bool :=
  settings.onActions && !settings.noColour

end ColourSettings
end PhpLint
