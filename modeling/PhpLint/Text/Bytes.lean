namespace PhpLint

/-!
# Byte strings

Paths, file contents, patterns and messages are arbitrary byte strings: nothing
here assumes that a text is well-formed UTF-8. Literals of the library are
written as strings and turned into bytes by `utf8`.
-/

/-- A text is the list of its bytes. -/
abbrev Bytes := List UInt8

/-- The UTF-8 encoding of a text. -/
def utf8 (text : String) : Bytes :=
  text.toList.flatMap String.utf8EncodeChar

namespace Bytes

/-- The byte of an ASCII character. -/
def ascii (c : Char) : UInt8 :=
  UInt8.ofNat c.toNat

def slash : UInt8 :=
  ascii '/'

/-- The pieces between the occurrences of a separator. There is always at least one piece. -/
def split (separator : UInt8) : Bytes → List Bytes
  | [] => [[]]
  | b :: rest =>
    if b = separator then
      [] :: split separator rest
    else
      match split separator rest with
      | [] => [[b]]
      | piece :: pieces => (b :: piece) :: pieces

/-- Whether the needle stands somewhere in the text. -/
def occurs (needle : Bytes) : Bytes → Bool
  | [] => needle.isEmpty
  | b :: rest => needle.isPrefixOf (b :: rest) || occurs needle rest

/-- The text before the first occurrence of the needle and the text after it. -/
def cut? (needle : Bytes) : Bytes → Option (Bytes × Bytes)
  | [] => if needle.isEmpty then some ([], []) else none
  | b :: rest =>
    if needle.isPrefixOf (b :: rest) then
      some ([], (b :: rest).drop needle.length)
    else
      (cut? needle rest).map fun (before, after) => (b :: before, after)

/-- What follows the given beginning of a text. -/
def after? (beginning text : Bytes) : Option Bytes :=
  if beginning.isPrefixOf text then some (text.drop beginning.length) else none

/-- What `whole` holds before the given rest of it. -/
def upTo (whole rest : Bytes) : Bytes :=
  whole.take (whole.length - rest.length)

/-- The texts with a separator between neighbours. -/
def join (separator : Bytes) : List Bytes → Bytes
  | [] => []
  | [text] => text
  | text :: next :: rest => text ++ separator ++ join separator (next :: rest)

/-- Whether the first text comes strictly before the second in the order of bytes. -/
def before : Bytes → Bytes → Bool
  | _, [] => false
  | [], _ :: _ => true
  | a :: as, b :: bs => a < b || (a == b && before as bs)

end Bytes

/-- The decimal digits of a number. -/
def decimal (n : Nat) : Bytes :=
  (Nat.toDigits 10 n).map Bytes.ascii

end PhpLint
