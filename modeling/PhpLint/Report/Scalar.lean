import PhpLint.Text.Numeral
import PhpLint.Text.Quoted
import PhpLint.Text.Timestamp

namespace PhpLint
namespace Report

/-!
# Texts in YAML reports

A text that a reader of YAML would take for something else is quoted. Every other
text is plain: it stands for itself on one line, and with line breaks it becomes
a literal block.
-/

/-- The words that mean null or a truth value. -/
def reservedWords : List Bytes :=
  ["null", "Null", "NULL", "~", "true", "True", "TRUE", "false", "False", "FALSE", "y", "Y",
    "yes", "Yes", "YES", "n", "N", "no", "No", "NO", "on", "On", "ON", "off", "Off",
    "OFF"].map utf8

/-- The layouts of timestamps that are quoted. -/
def timestampLayouts : List (List Timestamp.Field) := [
  Timestamp.zonedLayout true 'T',
  Timestamp.zonedLayout true 't',
  Timestamp.spacedLayout true,
  Timestamp.dateLayout true,
  [.hour, .letter ':', .minute false]]

def isTimestamp (text : Bytes) : Bool :=
  timestampLayouts.any fun layout => Timestamp.hasLayout layout text

/-- What follows a byte at the front, if it stands there. -/
def dropByte (c : Char) (text : Bytes) : Bytes :=
  if text.head? = some (Bytes.ascii c) then text.drop 1 else text

/-- Whether a text spells a number. The size of the number does not matter. -/
def isNumber (text : Bytes) : Bool :=
  let points := text.count (Bytes.ascii '.')
  if text.isEmpty || text.head? = some (Bytes.ascii '_') || 1 < points then
    false
  else
    let negative := text.head? == some (Bytes.ascii '-')
    let digits := (dropByte '-' (dropByte '+' text)).filter fun b => b != Bytes.ascii '_'
    if (utf8 "0x").isPrefixOf digits then
      Numeral.isNatural 16 (digits.drop 2)
    else if (utf8 "0o").isPrefixOf digits then
      Numeral.isNatural 8 (digits.drop 2)
    else if (utf8 "0b").isPrefixOf digits then
      Numeral.isNatural 2 (digits.drop 2)
    else if digits.head? = some (Bytes.ascii '0') && 1 < digits.length && points = 0 then
      Numeral.isNatural 8 digits
    else if points = 1 then
      let fraction := if negative then digits else Numeral.dropSign digits
      (Numeral.decimal? fraction).isSome || Numeral.isScaledHexadecimal fraction
    else
      Numeral.isNatural 10 digits

/-- The bytes that have a meaning of their own at the front of a text. -/
def indicators : Bytes :=
  utf8 "*&[\x7b\x7d],!|>%'\"@` "

/-- Whether a text has to be quoted. -/
def needsQuotes (text : Bytes) : Bool :=
  text.isEmpty || text = utf8 "-" || reservedWords.contains text || isNumber text ||
    text.head?.any indicators.contains ||
    text.getLast?.any (utf8 ": ").contains ||
    isTimestamp text || text.contains (Bytes.ascii '#') || text.contains (Bytes.ascii '\\') ||
    Bytes.occurs (utf8 ": ") text || Bytes.occurs (utf8 "- ") text

/-! ## Literal blocks -/

def lineFeed : Bytes :=
  [10]

def carriageReturn : Bytes :=
  [13]

/-- The number of carriage returns that have a line feed directly after them. -/
def pairedBreaks : Bytes → Nat
  | a :: b :: rest => (if a = 13 && b = 10 then 1 else 0) + pairedBreaks (b :: rest)
  | _ => 0

/-- The line break of a text: both characters if they only occur together, and otherwise the
one that is more frequent. -/
def lineBreak (text : Bytes) : Bytes :=
  let feeds := text.count 10
  let returns := text.count 13
  let pairs := pairedBreaks text
  if feeds = pairs && returns = pairs then
    carriageReturn ++ lineFeed
  else if feeds < returns then
    carriageReturn
  else
    lineFeed

/-- The pieces between the occurrences of a separator that is not empty. -/
def splitAll (separator : Bytes) : Nat → Bytes → List Bytes
  | 0, text => [text]
  | fuel + 1, text =>
    match Bytes.cut? separator text with
    | none => [text]
    | some (piece, rest) => piece :: splitAll separator fuel rest

/-- The text without the given end. -/
def dropEnd (ending text : Bytes) : Bytes :=
  if ending.isSuffixOf text then text.take (text.length - ending.length) else text

/-- The header of a literal block, which tells what happens to breaks at its end. -/
def blockHeader (lineEnd text : Bytes) : Bytes :=
  if (lineEnd ++ lineEnd).isSuffixOf text then
    utf8 "|+"
  else if lineEnd.isSuffixOf text then
    utf8 "|"
  else
    utf8 "|-"

/-- A text with line breaks as a literal block. -/
def literalBlock (lineEnd text : Bytes) : Bytes :=
  let indent := utf8 (if lineEnd = carriageReturn then "  " else "    ")
  let lines := (splitAll lineEnd text.length text).map fun line => indent ++ line
  blockHeader lineEnd text ++ lineEnd ++
    dropEnd indent (dropEnd (lineEnd ++ indent) (Bytes.join lineEnd lines))

/-- How a text is written after its key. -/
def scalar (text : Bytes) : Bytes :=
  if needsQuotes text then
    Quoted.encode text
  else if Bytes.occurs (lineBreak text) text then
    literalBlock (lineBreak text) text
  else
    text

end Report
end PhpLint
