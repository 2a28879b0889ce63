import PhpLint.Regex.CharClass
import PhpLint.Regex.Error
import PhpLint.Text.Numeral
import PhpLint.Text.Utf8

namespace PhpLint
namespace Regex

/-!
# Characters, escapes and character classes in the text of a regular expression

Every reader takes the text from its front on and returns what it read together
with the rest of the text.
-/

/-- The byte at the front is the given ASCII character. -/
def startsWith (c : Char) (text : Bytes) : Bool :=
  text.head? == some (Bytes.ascii c)

/-- The character at the front of a text that is not empty. -/
def nextChar (text : Bytes) : Except Error (Char × Bytes) :=
  match Utf8.front? text with
  | some (c, width) => .ok (c, text.drop width)
  | none => .error ⟨.notUtf8, text⟩

/-- Succeeds on well-formed UTF-8 and otherwise points at the first stray byte. -/
def checkUtf8 : Nat → Bytes → Except Error Unit
  | _, [] => .ok ()
  | 0, _ => .ok ()
  | fuel + 1, text =>
    match nextChar text with
    | .ok (_, rest) => checkUtf8 fuel rest
    | .error error => .error error

/-- Reads at most the given number of further octal digits. -/
def octalDigits : Nat → Nat → Bytes → Nat × Bytes
  | 0, value, text => (value, text)
  | _ + 1, value, [] => (value, [])
  | count + 1, value, b :: rest =>
    if Numeral.isDigitOf 8 b then
      octalDigits count (value * 8 + (b.toNat - 48)) rest
    else
      (value, b :: rest)

/-- Reads hexadecimal digits up to a closing brace. On failure it gives back the text after the
character that cannot stand there. -/
def bracedHex : Nat → Option Nat → Bytes → Except Error (Except Bytes (Nat × Bytes))
  | 0, _, text => .ok (.error text)
  | fuel + 1, value?, text =>
    if text.isEmpty then
      .ok (.error [])
    else
      match nextChar text with
      | .error error => .error error
      | .ok (c, rest) =>
        if c = '\x7d' then
          match value? with
          | some value => .ok (.ok (value, rest))
          | none => .ok (.error rest)
        else
          match Numeral.hexValue? c with
          | none => .ok (.error rest)
          | some digit =>
            let value := value?.getD 0 * 16 + digit
            if Unicode.lastCodePoint < value then .ok (.error rest)
            else bracedHex fuel (some value) rest

/-- The code point of an escape whose text starts with the backslash. -/
def readEscape (text : Bytes) : Except Error (Nat × Bytes) :=
  let bad (rest : Bytes) : Except Error (Nat × Bytes) := .error ⟨.badEscape, Bytes.upTo text rest⟩
  match text.drop 1 with
  | [] => .error ⟨.trailingBackslash, []⟩
  | b :: afterLetter =>
    match nextChar (b :: afterLetter) with
    | .error error => .error error
    | .ok (c, rest) =>
      match c with
      | 'a' => .ok (0x07, rest)
      | 'f' => .ok (0x0C, rest)
      | 'n' => .ok (0x0A, rest)
      | 'r' => .ok (0x0D, rest)
      | 't' => .ok (0x09, rest)
      | 'v' => .ok (0x0B, rest)
      | '0' => .ok (octalDigits 2 0 rest)
      | 'x' =>
        if rest.isEmpty then
          bad rest
        else
          match nextChar rest with
          | .error error => .error error
          | .ok (first, afterFirst) =>
            if first = '\x7b' then
              match bracedHex afterFirst.length none afterFirst with
              | .error error => .error error
              | .ok (.error left) => bad left
              | .ok (.ok found) => .ok found
            else if afterFirst.isEmpty then
              bad afterFirst
            else
              match nextChar afterFirst with
              | .error error => .error error
              | .ok (second, afterSecond) =>
                match Numeral.hexValue? first, Numeral.hexValue? second with
                | some high, some low => .ok (high * 16 + low, afterSecond)
                | _, _ => bad afterSecond
      | _ =>
        if '1' ≤ c && c ≤ '7' then
          -- A digit alone would refer back to a group.
          match rest with
          | [] => bad rest
          | next :: _ =>
            if Numeral.isDigitOf 8 next then .ok (octalDigits 2 (c.toNat - 48) rest) else bad rest
        else if c.toNat < 0x80 && !c.isAlphanum then
          .ok (c.toNat, rest)
        else
          bad rest

/-- The set of a property escape, which starts with `\p` or `\P`. -/
def readProperty (text : Bytes) : Except Error (CharSet × Bytes) :=
  let complement := text.drop 1 |> startsWith 'P'
  let body := text.drop 2
  let finish (spelled : Bytes) (name : List Char) (rest : Bytes) :
      Except Error (CharSet × Bytes) :=
    let negated := name.head? == some '^'
    match propertySet? (if negated then name.drop 1 else name) with
    | none => .error ⟨.badRange, spelled⟩
    | some set =>
      .ok ({ set with complemented := (set.complemented != complement) != negated }, rest)
  if body.isEmpty then
    finish text [] []
  else
    match nextChar body with
    | .error error => .error error
    | .ok (c, rest) =>
      if c = '\x7b' then
        match Bytes.cut? [Bytes.ascii '\x7d'] rest with
        | none =>
          match checkUtf8 text.length text with
          | .error error => .error error
          | .ok _ => .error ⟨.badRange, text⟩
        | some (name, afterBrace) =>
          match checkUtf8 name.length name with
          | .error error => .error error
          | .ok _ => finish (Bytes.upTo text afterBrace) (Utf8.chars name) afterBrace
      else
        finish (Bytes.upTo text rest) [c] rest

/-- The set of a class letter after a backslash, if the text starts with one. -/
def classEscape? (text : Bytes) : Option (CharSet × Bytes) :=
  match text with
  | b :: letter :: rest =>
    if b = Bytes.ascii '\\' then
      (escapeSet? (Char.ofNat letter.toNat)).map fun set => (set, rest)
    else
      none
  | _ => none

/-- The set of a name between `[:` and `:]`, if the text starts with one. -/
def bracketName? (text : Bytes) : Option (Except Error (CharSet × Bytes)) :=
  if text.length > 2 && (utf8 "[:").isPrefixOf text then
    (Bytes.cut? (utf8 ":]") (text.drop 2)).map fun (name, rest) =>
      match bracketSet? (Utf8.chars name) with
      | some set => .ok (set, rest)
      | none => .error ⟨.badRange, Bytes.upTo text rest⟩
  else
    none

/-- One end of a range of a class. -/
def readClassChar (whole text : Bytes) : Except Error (Nat × Bytes) :=
  if text.isEmpty then
    .error ⟨.missingBracket, whole⟩
  else if startsWith '\\' text then
    readEscape text
  else
    match nextChar text with
    | .ok (c, rest) => .ok (c.toNat, rest)
    | .error error => .error error

/-- A range of a class, or a single character as a range of one. -/
def readRange (whole text : Bytes) : Except Error (CharSet × Bytes) :=
  match readClassChar whole text with
  | .error error => .error error
  | .ok (low, rest) =>
    if startsWith '-' rest && rest.length ≥ 2 && !startsWith ']' (rest.drop 1) then
      match readClassChar whole (rest.drop 1) with
      | .error error => .error error
      | .ok (high, afterRange) =>
        if high < low then
          .error ⟨.badRange, Bytes.upTo text afterRange⟩
        else
          .ok ({ ranges := [(low, high)] }, afterRange)
    else
      .ok ({ ranges := [(low, low)] }, rest)

/-- One member of a class: a named set, a property, a class letter, or a range. -/
def readMember (whole text : Bytes) : Except Error (CharSet × Bytes) :=
  match bracketName? text with
  | some named => named
  | none =>
    if (utf8 "\\p").isPrefixOf text || (utf8 "\\P").isPrefixOf text then
      readProperty text
    else
      match classEscape? text with
      | some found => .ok found
      | none => readRange whole text

/-- The members up to the closing bracket. A closing bracket is a member if it comes first. -/
def readMembers (whole : Bytes) : Nat → Bool → Bytes → Except Error (List CharSet × Bytes)
  | 0, _, _ => .error ⟨.missingBracket, whole⟩
  | fuel + 1, first, text =>
    if startsWith ']' text && !first then
      .ok ([], text.drop 1)
    else
      match readMember whole text with
      | .error error => .error error
      | .ok (set, rest) =>
        match readMembers whole fuel false rest with
        | .error error => .error error
        | .ok (sets, afterClass) => .ok (set :: sets, afterClass)

/-- The class whose text starts with the opening bracket. -/
def readClass (ignoreCase : Bool) (text : Bytes) : Except Error (CharClass × Bytes) :=
  let complemented := startsWith '^' (text.drop 1)
  let body := text.drop (if complemented then 2 else 1)
  match readMembers text (text.length + 1) true body with
  | .error error => .error error
  | .ok (sets, rest) =>
    .ok ({ sets := sets, complemented := complemented, ignoreCase := ignoreCase }, rest)

end Regex
end PhpLint
