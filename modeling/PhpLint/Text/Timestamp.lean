import PhpLint.Text.Numeral

namespace PhpLint
namespace Timestamp

/-!
# Texts that are dates and times

A layout is a list of fields. A text has the layout if the fields can be read
from it one after another, nothing is left, every number is in its range, and the
day exists in its month.
-/

inductive Field where
  | year
  | month (padded : Bool)
  | day (padded : Bool)
  | hour
  | minute (padded : Bool)
  /-- Seconds, and digits after a point or a comma. -/
  | second (padded : Bool)
  /-- `Z`, or a sign with hours and minutes. -/
  | zone
  /-- At least one space. -/
  | spaces
  | letter (c : Char)
deriving DecidableEq

/-- The date that has been read so far. -/
structure Date where
  year : Nat := 0
  month : Nat := 1
  day : Nat := 1
deriving DecidableEq

/-- A number of one or two digits. A padded number has two. -/
def twoDigits? (padded : Bool) : Bytes → Option (Nat × Bytes)
  | [] => none
  | a :: rest =>
    if !Numeral.isDecimalDigit a then
      none
    else
      match rest with
      | [] => if padded then none else some (Numeral.value 10 [a], [])
      | b :: afterBoth =>
        if Numeral.isDecimalDigit b then
          some (Numeral.value 10 [a, b], afterBoth)
        else if padded then
          none
        else
          some (Numeral.value 10 [a], b :: afterBoth)

/-- Reads a number and checks that it lies in a range. -/
def ranged? (padded : Bool) (low high : Nat) (text : Bytes) : Option (Nat × Bytes) :=
  (twoDigits? padded text).filter fun (n, _) => low ≤ n && n ≤ high

/-- What follows an optional fraction of a second. -/
def dropFraction : Bytes → Bytes
  | mark :: digit :: rest =>
    if (mark = Bytes.ascii '.' || mark = Bytes.ascii ',') && Numeral.isDecimalDigit digit then
      rest.dropWhile Numeral.isDecimalDigit
    else
      mark :: digit :: rest
  | text => text

/-- What follows a time zone. -/
def dropZone? : Bytes → Option Bytes
  | [] => none
  | sign :: rest =>
    if sign = Bytes.ascii 'Z' then
      some rest
    else if sign = Bytes.ascii '+' || sign = Bytes.ascii '-' then
      match ranged? true 0 24 rest with
      | some (_, colon :: afterColon) =>
        if colon = Bytes.ascii ':' then
          (ranged? true 0 60 afterColon).map Prod.snd
        else
          none
      | _ => none
    else
      none

/-- Reads one field. -/
def Field.read? (field : Field) (date : Date) (text : Bytes) : Option (Date × Bytes) :=
  match field with
  | .year =>
    let digits := text.take 4
    if digits.length = 4 && digits.all Numeral.isDecimalDigit then
      some ({ date with year := Numeral.value 10 digits }, text.drop 4)
    else
      none
  | .month padded =>
    (ranged? padded 1 12 text).map fun (n, rest) => ({ date with month := n }, rest)
  | .day padded => (twoDigits? padded text).map fun (n, rest) => ({ date with day := n }, rest)
  | .hour => (ranged? false 0 23 text).map fun (_, rest) => (date, rest)
  | .minute padded => (ranged? padded 0 59 text).map fun (_, rest) => (date, rest)
  | .second padded => (ranged? padded 0 59 text).map fun (_, rest) => (date, dropFraction rest)
  | .zone => (dropZone? text).map fun rest => (date, rest)
  | .spaces =>
    if text.head? = some (Bytes.ascii ' ') then
      some (date, text.dropWhile fun b => b == Bytes.ascii ' ')
    else
      none
  | .letter c => if text.head? = some (Bytes.ascii c) then some (date, text.drop 1) else none

/-- Reads the fields of a layout to the end of the text. -/
def read? : List Field → Date → Bytes → Option Date
  | [], date, text => if text.isEmpty then some date else none
  | field :: fields, date, text =>
    match field.read? date text with
    | none => none
    | some (next, rest) => read? fields next rest

def isLeapYear (year : Nat) : Bool :=
  year % 4 == 0 && (year % 100 != 0 || year % 400 == 0)

def daysInMonth (year month : Nat) : Nat :=
  if month = 2 then
    if isLeapYear year then 29 else 28
  else if month = 4 || month = 6 || month = 9 || month = 11 then
    30
  else
    31

def Date.exists (date : Date) : Bool :=
  1 ≤ date.day && date.day ≤ daysInMonth date.year date.month

/-- Whether a text has the given layout. -/
def hasLayout (layout : List Field) (text : Bytes) : Bool :=
  (read? layout {} text).any Date.exists

/-- Year, month and day with dashes between them. -/
def dateLayout (padded : Bool) : List Field :=
  [.year, .letter '-', .month padded, .letter '-', .day padded]

/-- Hour, minute and second with colons between them. -/
def timeLayout (padded : Bool) : List Field :=
  [.hour, .letter ':', .minute padded, .letter ':', .second padded]

/-- Date and time with a letter between them, and a time zone. -/
def zonedLayout (padded : Bool) (separator : Char) : List Field :=
  dateLayout padded ++ [.letter separator] ++ timeLayout padded ++ [.zone]

/-- Date and time with spaces between them. -/
def spacedLayout (padded : Bool) : List Field :=
  dateLayout padded ++ [.spaces] ++ timeLayout padded

end Timestamp
end PhpLint
