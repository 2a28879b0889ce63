import PhpLint.Text.Utf8

namespace PhpLint
namespace Yaml

/-!
# Positions in a YAML text

A cursor holds what is left of the text, together with the number of characters
before it, its line and its column, all of them counted from zero.
-/

def isBlank (c : Char) : Bool :=
  c == ' ' || c == '\t'

/-- Line feed, carriage return, next line, line separator and paragraph separator. -/
def isBreak (c : Char) : Bool :=
  let n := c.toNat
  n == 0x0A || n == 0x0D || n == 0x85 || n == 0x2028 || n == 0x2029

/-- The characters of names: ASCII letters and digits, the underscore and the dash. -/
def isNameChar (c : Char) : Bool :=
  c.isAlphanum || c == '_' || c == '-'

def byteOrderMark : Char :=
  Char.ofNat 0xFEFF

/-- The characters that may stand in a YAML text at all. -/
def isAllowed (c : Char) : Bool :=
  let n := c.toNat
  n == 0x09 || n == 0x0A || n == 0x0D || (0x20 ≤ n && n ≤ 0x7E) || n == 0x85 ||
    (0xA0 ≤ n && n ≤ 0xD7FF) || (0xE000 ≤ n && n ≤ 0xFFFD) || 0x10000 ≤ n

structure Cursor where
  rest : List Char
  index : Nat := 0
  line : Nat := 0
  column : Nat := 0
deriving DecidableEq

namespace Cursor

def head? (cursor : Cursor) : Option Char :=
  cursor.rest.head?

/-- The character at a distance from the cursor. -/
def ahead? (cursor : Cursor) (distance : Nat) : Option Char :=
  cursor.rest[distance]?

def isAt (cursor : Cursor) (c : Char) : Bool :=
  cursor.head? == some c

/-- Skips characters of the same line. -/
def skip (cursor : Cursor) (count : Nat) : Cursor where
  rest := cursor.rest.drop count
  index := cursor.index + count
  line := cursor.line
  column := cursor.column + count

def skipWhile (cursor : Cursor) (test : Char → Bool) : Cursor :=
  cursor.skip (cursor.rest.takeWhile test).length

/-- The longest run of characters that pass a test, and the cursor after it. -/
def takeWhile (cursor : Cursor) (test : Char → Bool) : List Char × Cursor :=
  (cursor.rest.takeWhile test, cursor.skipWhile test)

/-- Skips a line break. A carriage return with a line feed is one break. -/
def skipBreak (cursor : Cursor) : Cursor :=
  match cursor.rest with
  | '\r' :: '\n' :: rest => ⟨rest, cursor.index + 2, cursor.line + 1, 0⟩
  | c :: rest => if isBreak c then ⟨rest, cursor.index + 1, cursor.line + 1, 0⟩ else cursor
  | [] => cursor

/-- How the line break at the cursor is kept: the separators of Unicode as they are, every
other break as a line feed. -/
def breakText (cursor : Cursor) : List Char :=
  match cursor.rest with
  | c :: _ =>
    if c.toNat == 0x2028 || c.toNat == 0x2029 then [c]
    else if isBreak c then ['\n']
    else []
  | [] => []

/-- Whether the character at a distance is a line break or the end of the text. -/
def endsLine (cursor : Cursor) (distance : Nat) : Bool :=
  (cursor.ahead? distance).all isBreak

/-- Whether the character at a distance is blank, a line break or the end of the text. -/
def endsWord (cursor : Cursor) (distance : Nat) : Bool :=
  (cursor.ahead? distance).all fun c => isBlank c || isBreak c

def atBlank (cursor : Cursor) : Bool :=
  cursor.head?.any isBlank

def atBreak (cursor : Cursor) : Bool :=
  cursor.head?.any isBreak

/-- Whether a line of three equal characters, with nothing but blanks after them, begins at
the cursor. -/
def atMarker (cursor : Cursor) (c : Char) : Bool :=
  cursor.column == 0 && cursor.rest.take 3 == [c, c, c] && cursor.endsWord 3

/-- Whether a document begins or ends at the cursor. -/
def atDocumentMarker (cursor : Cursor) : Bool :=
  cursor.atMarker '-' || cursor.atMarker '.'

/-- Skips a comment to the end of its line, if there is one. -/
def skipComment (cursor : Cursor) : Cursor :=
  if cursor.isAt '#' then cursor.skipWhile fun c => !isBreak c else cursor

end Cursor

end Yaml
end PhpLint
