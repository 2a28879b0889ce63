import PhpLint.Text.Utf8

namespace PhpLint

/-!
# White space

Two classes of characters count as blank: the characters with the Unicode
property `White_Space`, which are trimmed from lines and arguments, and the
wider class of characters that may indent a function header, which adds the
information separators and takes every separator character of Unicode.
A stray byte is never blank.
-/

/-- The characters with the Unicode property `White_Space`. -/
def isWhiteSpace (c : Char) : Bool :=
  let n := c.toNat
  (0x09 ≤ n && n ≤ 0x0D) || n == 0x20 || n == 0x85 || n == 0xA0 || n == 0x1680 ||
    (0x2000 ≤ n && n ≤ 0x200A) || n == 0x2028 || n == 0x2029 || n == 0x202F ||
    n == 0x205F || n == 0x3000

/-- The characters of the Unicode category `Z`: space, line and paragraph separators. -/
def isSeparator (c : Char) : Bool :=
  let n := c.toNat
  n == 0x20 || n == 0xA0 || n == 0x1680 || (0x2000 ≤ n && n ≤ 0x200A) || n == 0x2028 ||
    n == 0x2029 || n == 0x202F || n == 0x205F || n == 0x3000

/-- The characters that may stand before and inside the beginning of a function header. -/
def isIndent (c : Char) : Bool :=
  let n := c.toNat
  (0x09 ≤ n && n ≤ 0x0D) || (0x1C ≤ n && n ≤ 0x1F) || n == 0x85 || isSeparator c

namespace Utf8.Piece

def isWhiteSpace : Piece → Bool
  | .scalar c => PhpLint.isWhiteSpace c
  | .stray _ => false

def isIndent : Piece → Bool
  | .scalar c => PhpLint.isIndent c
  | .stray _ => false

end Utf8.Piece

namespace Bytes

/-- The text without its leading and trailing white space. -/
def trim (text : Bytes) : Bytes :=
  let leftTrimmed := (Utf8.pieces text).dropWhile Utf8.Piece.isWhiteSpace
  Utf8.unpieces (leftTrimmed.reverse.dropWhile Utf8.Piece.isWhiteSpace).reverse

end Bytes

end PhpLint
