import PhpLint.Text.Numeral
import PhpLint.Text.Quoted

namespace PhpLint

/-!
# Log entries

An entry has a level, a message and named values. A level shows the entries whose
own level is at most as detailed.
-/

inductive LogLevel where
  | panic
  | fatal
  | error
  | warning
  | info
  | debug
  | trace
deriving DecidableEq

namespace LogLevel

def all : List LogLevel :=
  [.panic, .fatal, .error, .warning, .info, .debug, .trace]

def name : LogLevel → Bytes
  | .panic => utf8 "panic"
  | .fatal => utf8 "fatal"
  | .error => utf8 "error"
  | .warning => utf8 "warning"
  | .info => utf8 "info"
  | .debug => utf8 "debug"
  | .trace => utf8 "trace"

/-- How detailed the entries of a level are. -/
def detail : LogLevel → Nat
  | .panic => 0
  | .fatal => 1
  | .error => 2
  | .warning => 3
  | .info => 4
  | .debug => 5
  | .trace => 6

/-- The lower-case form of a letter that may occur in the name of a level. A dotted capital
I is one of them. -/
def lowerChar (c : Char) : Char :=
  if c = Char.ofNat 0x130 then 'i' else c.toLower

/-- The level with a name, in upper or lower case. -/
def ofName? (text : Bytes) : Option LogLevel :=
  let lower := Utf8.encode ((Utf8.chars text).map lowerChar)
  if lower = utf8 "warn" then
    some .warning
  else
    all.find? fun level => level.name = lower

end LogLevel

inductive LogValue where
  | text (value : Bytes)
  | number (value : Nat)
deriving DecidableEq

structure LogEntry where
  level : LogLevel
  message : Bytes
  fields : List (Bytes × LogValue) := []
deriving DecidableEq

/-- The fields of every entry of the program. -/
def programFields (version : Bytes) : List (Bytes × LogValue) :=
  [(utf8 "program", .text (utf8 "phpsanity")), (utf8 "version", .text version)]

namespace LogEntry

def isShown (entry : LogEntry) (level : LogLevel) : Bool :=
  entry.level.detail ≤ level.detail

/-- The complaint about a name that no level has. -/
def unknownLevel (name : Bytes) : LogEntry where
  level := .error
  message := utf8 "the log level is invalid"
  fields := [
    (utf8 "log_level", .text name),
    (utf8 "error", .text (utf8 "not a valid logrus Level: " ++ Quoted.encode name))]

/-- The characters of values that are written without quotes. -/
def isBare (b : UInt8) : Bool :=
  (Bytes.ascii 'a' ≤ b && b ≤ Bytes.ascii 'z') || (Bytes.ascii 'A' ≤ b && b ≤ Bytes.ascii 'Z') ||
    Numeral.isDecimalDigit b || (utf8 "-._/@^+").contains b

def valueText : LogValue → Bytes
  | .text value => if value.all isBare then value else Quoted.encode value
  | .number value => decimal value

def fieldText (field : Bytes × LogValue) : Bytes :=
  field.1 ++ utf8 "=" ++ valueText field.2

/-- The entry as a line of text. The fields are sorted by their names. -/
def line (entry : LogEntry) (version : Bytes) : Bytes :=
  let fields := (entry.fields ++ programFields version).mergeSort
    fun a b => !Bytes.before b.1 a.1
  let front : List (Bytes × LogValue) :=
    [(utf8 "level", .text entry.level.name), (utf8 "msg", .text entry.message)]
  Bytes.join (utf8 " ") ((front ++ fields).map fieldText) ++ utf8 "\n"

end LogEntry

/-- A level with the entries that it has shown. -/
structure Log where
  level : LogLevel := .info
  entries : List LogEntry := []
deriving DecidableEq

namespace Log

/-- Adds the entries that the level shows. -/
def record (log : Log) (entries : List LogEntry) : Log :=
  { log with entries := log.entries ++ entries.filter fun entry => entry.isShown log.level }

/-- Changes the level. An empty name keeps it, and so does an unknown one, with a complaint. -/
def setLevel (log : Log) (name : Bytes) : Log :=
  if name.isEmpty then
    log
  else
    match LogLevel.ofName? name with
    | some level => { log with level := level }
    | none => log.record [LogEntry.unknownLevel name]

end Log
end PhpLint
