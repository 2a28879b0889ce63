import PhpLint.Text.Numeral
import PhpLint.Text.Timestamp

namespace PhpLint
namespace Yaml

/-!
# Tags

A tag tells the type of a node.

A plain scalar has the tag of what its text looks like: null, a truth value, a
number, a timestamp, or else a text.
-/

namespace Tag

def null : Bytes := utf8 "!!null"
def bool : Bytes := utf8 "!!bool"
def int : Bytes := utf8 "!!int"
def float : Bytes := utf8 "!!float"
def timestamp : Bytes := utf8 "!!timestamp"
def str : Bytes := utf8 "!!str"
def binary : Bytes := utf8 "!!binary"
def merge : Bytes := utf8 "!!merge"
def seq : Bytes := utf8 "!!seq"
def map : Bytes := utf8 "!!map"

/-- The beginning of the tags that are written with two exclamation marks. -/
def standardBeginning : Bytes :=
  utf8 "tag:yaml.org,2002:"

/-- The short form of a tag. -/
def short (tag : Bytes) : Bytes :=
  match Bytes.after? standardBeginning tag with
  | some rest => utf8 "!!" ++ rest
  | none => tag

/-- Words with a meaning of their own. -/
def words : List (Bytes × Bytes) :=
  (["true", "True", "TRUE", "false", "False", "FALSE"].map fun word => (utf8 word, bool)) ++
    (["", "~", "null", "Null", "NULL"].map fun word => (utf8 word, null)) ++
    ([".nan", ".NaN", ".NAN", ".inf", ".Inf", ".INF", "+.inf", "+.Inf", "+.INF", "-.inf",
      "-.Inf", "-.INF"].map fun word => (utf8 word, float))

/-- The layouts of timestamps. -/
def timestampLayouts : List (List Timestamp.Field) := [
  Timestamp.zonedLayout false 'T',
  Timestamp.zonedLayout false 't',
  Timestamp.spacedLayout false,
  Timestamp.dateLayout false]

/-- A timestamp begins with a year of four digits and a dash. -/
def isTimestamp (text : Bytes) : Bool :=
  (text.takeWhile Numeral.isDecimalDigit).length == 4 &&
    text[4]? == some (Bytes.ascii '-') &&
    timestampLayouts.any fun layout => Timestamp.hasLayout layout text

/-- The base that the beginning of a number selects, and the digits after it. -/
def baseAndDigits (text : Bytes) : Nat × Bytes :=
  let start := (text.take 2).map fun b => if 0x41 ≤ b && b ≤ 0x5A then b + 0x20 else b
  if start = utf8 "0x" then (16, text.drop 2)
  else if start = utf8 "0o" then (8, text.drop 2)
  else if start = utf8 "0b" then (2, text.drop 2)
  else if text.head? = some (Bytes.ascii '0') && 1 < text.length then (8, text.drop 1)
  else (10, text)

def sign? (text : Bytes) : Option UInt8 :=
  text.head?.filter fun b => b == Bytes.ascii '+' || b == Bytes.ascii '-'

/-- Whether digits make a number of 64 bits, which has one bit less with a sign. -/
def fitsWord (base : Nat) (sign : Option UInt8) (digits : Bytes) : Bool :=
  let limit :=
    if sign = some (Bytes.ascii '-') then Nat.pow 2 63
    else if sign.isSome then Nat.pow 2 63 - 1
    else Nat.pow 2 64 - 1
  Numeral.isNatural base digits && Numeral.value base digits ≤ limit

/-- Whether a text without underscores is an integer of 64 bits, with or without a sign. After
`0b` and `0o` the sign may also stand in front of the digits. -/
def isInteger (text : Bytes) : Bool :=
  let (base, digits) := baseAndDigits (Numeral.dropSign text)
  fitsWord base (sign? text) digits ||
    ([utf8 "0b", utf8 "0o"].contains (text.take 2) &&
      fitsWord base (sign? digits) (Numeral.dropSign digits))

/-- Whether a text is a decimal number that is not too large. -/
def isFloat (text : Bytes) : Bool :=
  (Numeral.decimal? (Numeral.dropSign text)).any fun number => !number.overflows

/-- The tag that a text looks like. Timestamps are only recognised if asked for. -/
def looksLike (withTimestamps : Bool) (text : Bytes) : Bytes :=
  match words.find? fun word => word.1 = text with
  | some (_, tag) => tag
  | none =>
    match text.head? with
    | none => str
    | some first =>
      if first = Bytes.ascii '.' then
        if isFloat text then float else str
      else if Numeral.isDecimalDigit first || first = Bytes.ascii '+' ||
          first = Bytes.ascii '-' then
        let plain := text.filter fun b => b != Bytes.ascii '_'
        if withTimestamps && isTimestamp text then timestamp
        else if isInteger plain then int
        else if isFloat plain then float
        else str
      else
        str

/-- The tags whose scalars have to look like them. -/
def isChecked (tag : Bytes) : Bool :=
  [bool, int, float, null, timestamp].contains tag

/-- Whether a text may have a tag. An integer may be a number with a point. -/
def admits (tag text : Bytes) : Bool :=
  if isChecked tag then
    let looks := looksLike (tag = timestamp) text
    looks = tag || (tag = float && looks = int)
  else
    true

end Tag
end Yaml
end PhpLint
