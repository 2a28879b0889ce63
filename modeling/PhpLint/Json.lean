import PhpLint.Text.Quoted

namespace PhpLint

/-!
# JSON documents

A document is written with an indentation of two spaces and one member or element
a line. Characters that mean something in HTML are escaped, and a stray byte is
written as the replacement character.
-/

inductive Json where
  | boolean (value : Bool)
  | number (value : Nat)
  | text (value : Bytes)
  | array (elements : List Json)
  | object (members : List (Bytes × Json))

namespace Json

/-- The escape of four hexadecimal digits. -/
def unicodeEscape (n : Nat) : Bytes :=
  utf8 "\\u" ++ Quoted.hexDigits 4 n

def encodeChar (c : Char) : Bytes :=
  let n := c.toNat
  if c = '"' || c = '\\' then [Quoted.backslash, Bytes.ascii c]
  else if n = 0x08 then utf8 "\\b"
  else if n = 0x0C then utf8 "\\f"
  else if n = 0x0A then utf8 "\\n"
  else if n = 0x0D then utf8 "\\r"
  else if n = 0x09 then utf8 "\\t"
  else if n < 0x20 || c = '<' || c = '>' || c = '&' || n = 0x2028 || n = 0x2029 then
    unicodeEscape n
  else String.utf8EncodeChar c

def encodeText (text : Bytes) : Bytes :=
  [Quoted.quote] ++ (Utf8.chars text).flatMap encodeChar ++ [Quoted.quote]

/-- A line break and the indentation of a level. -/
def newLine (level : Nat) : Bytes :=
  utf8 "\n" ++ List.replicate (2 * level) (Bytes.ascii ' ')

mutual

/-- The document, of which further lines are indented to the given level. -/
def render (level : Nat) : Json → Bytes
  | .boolean value => utf8 (if value then "true" else "false")
  | .number value => decimal value
  | .text value => encodeText value
  | .array [] => utf8 "[]"
  | .array (first :: rest) =>
    utf8 "[" ++ newLine (level + 1) ++ render (level + 1) first ++
      renderElements (level + 1) rest ++ newLine level ++ utf8 "]"
  | .object [] => utf8 "\x7b\x7d"
  | .object (first :: rest) =>
    utf8 "\x7b" ++ newLine (level + 1) ++ renderMember (level + 1) first ++
      renderMembers (level + 1) rest ++ newLine level ++ utf8 "\x7d"

def renderElements (level : Nat) : List Json → Bytes
  | [] => []
  | element :: rest =>
    utf8 "," ++ newLine level ++ render level element ++ renderElements level rest

def renderMember (level : Nat) : Bytes × Json → Bytes
  | (name, value) => encodeText name ++ utf8 ": " ++ render level value

def renderMembers (level : Nat) : List (Bytes × Json) → Bytes
  | [] => []
  | member :: rest =>
    utf8 "," ++ newLine level ++ renderMember level member ++ renderMembers level rest

end

/-- The document with a final line feed. -/
def document (json : Json) : Bytes :=
  render 0 json ++ utf8 "\n"

end Json
end PhpLint
