import PhpLint.Text.Bytes

namespace PhpLint
namespace Utf8

/-!
# Reading bytes as UTF-8

A byte string is cut into pieces: the characters whose encodings stand in it,
and stray bytes that belong to no encoding. Putting the bytes of the pieces
together again gives the byte string back, so a caller may work on pieces and
return to bytes without loss.
-/

inductive Piece where
  | scalar (c : Char)
  | stray (byte : UInt8)
deriving DecidableEq

/-- The number spelled by the payload bits of an encoding of one to four bytes. -/
def payload : Bytes → Nat
  | [a] => a.toNat
  | [a, b] => a.toNat % 32 * 64 + b.toNat % 64
  | [a, b, c] => a.toNat % 16 * 4096 + b.toNat % 64 * 64 + c.toNat % 64
  | [a, b, c, d] =>
    a.toNat % 8 * 262144 + b.toNat % 64 * 4096 + c.toNat % 64 * 64 + d.toNat % 64
  | _ => 0

/-- The character whose encoding is exactly the given bytes. -/
def charOf? (bytes : Bytes) : Option Char :=
  if String.utf8EncodeChar (Char.ofNat (payload bytes)) = bytes then
    some (Char.ofNat (payload bytes))
  else
    none

/-- The character encoded at the front, and the number of its bytes. -/
def front? (bytes : Bytes) : Option (Char × Nat) :=
  [1, 2, 3, 4].findSome? fun width =>
    (charOf? (bytes.take width)).map fun c => (c, width)

/-- The pieces of what remains after the first `skip` bytes. -/
def piecesAfter : Nat → Bytes → List Piece
  | _, [] => []
  | skip + 1, _ :: rest => piecesAfter skip rest
  | 0, b :: rest =>
    match front? (b :: rest) with
    | some (c, width) => .scalar c :: piecesAfter (width - 1) rest
    | none => .stray b :: piecesAfter 0 rest

/-- The characters and stray bytes of a text, from left to right. -/
def pieces (bytes : Bytes) : List Piece :=
  piecesAfter 0 bytes

/-- The character that stands for a byte that belongs to no encoding. -/
def replacement : Char :=
  Char.ofNat 0xFFFD

namespace Piece

def bytes : Piece → Bytes
  | .scalar c => String.utf8EncodeChar c
  | .stray b => [b]

/-- The character of a piece. Every stray byte reads as the replacement character. -/
def char : Piece → Char
  | .scalar c => c
  | .stray _ => replacement

def isStray : Piece → Bool
  | .scalar _ => false
  | .stray _ => true

end Piece

/-- The text of a list of pieces. -/
def unpieces (ps : List Piece) : Bytes :=
  ps.flatMap Piece.bytes

/-- The characters of a text, with the replacement character for each stray byte. -/
def chars (bytes : Bytes) : List Char :=
  (pieces bytes).map Piece.char

/-- Whether the text is well-formed UTF-8. -/
def valid (bytes : Bytes) : Bool :=
  (pieces bytes).all fun p => !p.isStray

/-- The encoding of a list of characters. -/
def encode (text : List Char) : Bytes :=
  text.flatMap String.utf8EncodeChar

end Utf8
end PhpLint
