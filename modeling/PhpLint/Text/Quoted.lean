import PhpLint.Text.Utf8
import PhpLint.Unicode.Category

namespace PhpLint
namespace Quoted

/-!
# Texts between double quotes

Printable characters stand for themselves, except that a quote and a backslash
take a backslash before them. Everything else is escaped: seven control
characters by a letter, other control characters and stray bytes by two
hexadecimal digits, and the remaining characters by four or eight.
-/

def quote : UInt8 :=
  Bytes.ascii '"'

def backslash : UInt8 :=
  Bytes.ascii '\\'

def hexDigit (n : Nat) : UInt8 :=
  Bytes.ascii (Nat.digitChar (n % 16))

/-- The lowest hexadecimal digits of a number, as many as asked for. -/
def hexDigits : Nat → Nat → Bytes
  | 0, _ => []
  | count + 1, n => hexDigits count (n / 16) ++ [hexDigit n]

/-- The letter that stands for a control character after a backslash. -/
def controlLetter? (n : Nat) : Option Char :=
  match n with
  | 0x07 => some 'a'
  | 0x08 => some 'b'
  | 0x09 => some 't'
  | 0x0A => some 'n'
  | 0x0B => some 'v'
  | 0x0C => some 'f'
  | 0x0D => some 'r'
  | _ => none

def escapeByte (b : UInt8) : Bytes :=
  [backslash, Bytes.ascii 'x'] ++ hexDigits 2 b.toNat

def encodeChar (c : Char) : Bytes :=
  let n := c.toNat
  if c = '"' || c = '\\' then
    [backslash, Bytes.ascii c]
  else if Unicode.isPrintable c then
    String.utf8EncodeChar c
  else
    match controlLetter? n with
    | some letter => [backslash, Bytes.ascii letter]
    | none =>
      if n < 0x20 || n = 0x7F then
        [backslash, Bytes.ascii 'x'] ++ hexDigits 2 n
      else if n < 0x10000 then
        [backslash, Bytes.ascii 'u'] ++ hexDigits 4 n
      else
        [backslash, Bytes.ascii 'U'] ++ hexDigits 8 n

def encodePiece : Utf8.Piece → Bytes
  | .scalar c => encodeChar c
  | .stray b => escapeByte b

/-- The quoted form of a text. -/
def encode (text : Bytes) : Bytes :=
  [quote] ++ (Utf8.pieces text).flatMap encodePiece ++ [quote]

end Quoted
end PhpLint
