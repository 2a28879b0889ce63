import PhpLint.Json
import PhpLint.Proofs.Numeral

namespace PhpLint
namespace Json

/-!
# A reader of JSON documents

The reader takes a document of the JSON grammar, with natural numbers as its only
numbers and without null, and refuses everything else: a control character or an
unknown escape in a text, a leading zero, a missing or trailing comma, bytes around
the document and bytes that are not UTF-8.  It is written without regard to how
documents are rendered, so that reading back is a statement about the rendering.
-/

/-! ## Texts -/

def isBlank (b : UInt8) : Bool :=
  b = 0x20 || b = 0x0A || b = 0x0D || b = 0x09

def skipBlanks (bytes : Bytes) : Bytes :=
  bytes.dropWhile isBlank

/-- The second half of a surrogate pair at the front, with its own escape. -/
def lowSurrogate? (bytes : Bytes) : Option Nat :=
  (Bytes.after? (utf8 "\\u") bytes).bind fun digits =>
    (Quoted.number? 4 digits).filter fun n => 0xDC00 ≤ n && n < 0xE000

/-- The character of a unit, and the number of bytes after the unit that belong to it as
well. A surrogate without its other half stands for the replacement character. -/
def unitChar (n : Nat) (rest : Bytes) : Char × Nat :=
  if n < 0xD800 || 0xE000 ≤ n then
    (Char.ofNat n, 0)
  else
    match lowSurrogate? rest with
    | some low =>
      if n < 0xDC00 then
        (Char.ofNat (0x10000 + (n - 0xD800) * 0x400 + (low - 0xDC00)), 6)
      else
        (Utf8.replacement, 0)
    | none => (Utf8.replacement, 0)

/-- The character that an escape of one letter stands for. -/
def escaped? (letter : UInt8) : Option Char :=
  if letter = Bytes.ascii '"' then some '"'
  else if letter = Bytes.ascii '\\' then some '\\'
  else if letter = Bytes.ascii '/' then some '/'
  else if letter = Bytes.ascii 'b' then some (Char.ofNat 0x08)
  else if letter = Bytes.ascii 'f' then some (Char.ofNat 0x0C)
  else if letter = Bytes.ascii 'n' then some (Char.ofNat 0x0A)
  else if letter = Bytes.ascii 'r' then some (Char.ofNat 0x0D)
  else if letter = Bytes.ascii 't' then some (Char.ofNat 0x09)
  else none

/-- The character of the escape at the front, of which the backslash has been read, and the
number of its bytes. -/
def escape? : Bytes → Option (Char × Nat)
  | [] => none
  | letter :: rest =>
    if letter = Bytes.ascii 'u' then
      (Quoted.number? 4 rest).map fun n =>
        let (c, more) := unitChar n (rest.drop 4)
        (c, 5 + more)
    else
      (escaped? letter).map fun c => (c, 1)

/-- The text up to its closing quote and what follows, after the first `skip` bytes. -/
def readText (skip : Nat) (bytes : Bytes) : Option (Bytes × Bytes) :=
  match skip, bytes with
  | _, [] => none
  | skip + 1, _ :: rest => readText skip rest
  | 0, b :: rest =>
    if b = Quoted.quote then
      some ([], rest)
    else if b = Quoted.backslash then
      match escape? rest with
      | none => none
      | some (c, width) =>
        (readText width rest).map fun (content, after) =>
          (String.utf8EncodeChar c ++ content, after)
    else if b < 0x20 then
      none
    else
      (readText 0 rest).map fun (content, after) => (b :: content, after)

/-! ## Values -/

def readNumber (bytes : Bytes) : Option (Json × Bytes) :=
  let digits := bytes.takeWhile Numeral.isDecimalDigit
  if digits.isEmpty || (digits.head? = some (Bytes.ascii '0') && digits ≠ [Bytes.ascii '0']) then
    none
  else
    some (.number (Numeral.value 10 digits), bytes.dropWhile Numeral.isDecimalDigit)

def readKeyword (bytes : Bytes) : Option (Json × Bytes) :=
  match Bytes.after? (utf8 "true") bytes with
  | some rest => some (.boolean true, rest)
  | none => (Bytes.after? (utf8 "false") bytes).map fun rest => (.boolean false, rest)

/-- One or more items with commas between them, up to the closing byte. -/
def readItems {α : Type} (item : Bytes → Option (α × Bytes)) (close : UInt8) :
    Nat → Bytes → Option (List α × Bytes)
  | 0, _ => none
  | count + 1, bytes =>
    match item bytes with
    | none => none
    | some (first, rest) =>
      match skipBlanks rest with
      | [] => none
      | b :: after =>
        if b = close then
          some ([first], after)
        else if b = Bytes.ascii ',' then
          (readItems item close count (skipBlanks after)).map fun (others, rest) =>
            (first :: others, rest)
        else
          none

/-- Any number of items up to the closing byte, of which the opening byte has been read. -/
def readEnclosed {α : Type} (item : Bytes → Option (α × Bytes)) (close : UInt8)
    (bytes : Bytes) : Option (List α × Bytes) :=
  match skipBlanks bytes with
  | [] => none
  | b :: rest =>
    if b = close then
      some ([], rest)
    else
      readItems item close (b :: rest).length (b :: rest)

/-- A text as a name, a colon and a value. -/
def readMember (value : Bytes → Option (Json × Bytes)) :
    Bytes → Option ((Bytes × Json) × Bytes)
  | [] => none
  | b :: bytes =>
    if b = Quoted.quote then
      (readText 0 bytes).bind fun (name, rest) =>
        (Bytes.after? (utf8 ":") (skipBlanks rest)).bind fun rest =>
          (value (skipBlanks rest)).map fun (json, rest) => ((name, json), rest)
    else
      none

/-- The value at the front and what follows it. The fuel bounds the depth of the value. -/
def readValue : Nat → Bytes → Option (Json × Bytes)
  | 0, _ => none
  | _ + 1, [] => none
  | fuel + 1, b :: rest =>
    if b = Quoted.quote then
      (readText 0 rest).map fun (content, rest) => (.text content, rest)
    else if b = Bytes.ascii '[' then
      (readEnclosed (readValue fuel) (Bytes.ascii ']') rest).map fun (elements, rest) =>
        (.array elements, rest)
    else if b = Bytes.ascii '\x7b' then
      (readEnclosed (readMember (readValue fuel)) (Bytes.ascii '\x7d') rest).map
        fun (members, rest) => (.object members, rest)
    else if Numeral.isDecimalDigit b then
      readNumber (b :: rest)
    else
      readKeyword (b :: rest)

/-- The value of a document, which takes up all the bytes. -/
def read? (bytes : Bytes) : Option Json :=
  if Utf8.valid bytes then
    match readValue bytes.length bytes with
    | some (json, []) => some json
    | _ => none
  else
    none

end Json
end PhpLint
