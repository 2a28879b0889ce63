import PhpLint.Yaml.Cursor

namespace PhpLint
namespace Yaml

/-!
# The characters of a YAML text

A byte order mark at the front tells the encoding; without one it is UTF-8. The
bytes are decoded block by block, and only when their characters are asked for. A
block with something in it that is no character cannot be read at all. So the text
breaks off in front of that block, and if nobody asks for more than comes before,
nothing is wrong.
-/

inductive Encoding where
  | utf8
  | utf16 (bigEndian : Bool)
deriving DecidableEq

namespace Encoding

def mark : Encoding → Bytes
  | .utf8 => [0xEF, 0xBB, 0xBF]
  | .utf16 false => [0xFF, 0xFE]
  | .utf16 true => [0xFE, 0xFF]

/-- The encoding whose mark stands at the front. -/
def ofMark? (bytes : Bytes) : Option Encoding :=
  [.utf8, .utf16 false, .utf16 true].find? fun encoding => encoding.mark.isPrefixOf bytes

end Encoding

/-! ## Letters -/

/-- What is encoded at one place: a character that is allowed, or something else. -/
structure Letter where
  char? : Option Char
  /-- The number of bytes that have to be there to tell. -/
  width : Nat

def Letter.ofChar (c : Char) (width : Nat) : Letter :=
  ⟨if isAllowed c then some c else none, width⟩

/-- The number of bytes of a character whose encoding begins with the given byte. -/
def encodedLength (first : UInt8) : Nat :=
  if first < 0x80 then 1
  else if 0xC0 ≤ first && first < 0xE0 then 2
  else if 0xE0 ≤ first && first < 0xF0 then 3
  else if 0xF0 ≤ first && first < 0xF8 then 4
  else 0

def utf8Letter : Utf8.Piece → Letter
  | .scalar c => .ofChar c (String.utf8EncodeChar c).length
  | .stray b => ⟨none, max 1 (encodedLength b)⟩

/-- The number of two bytes. -/
def unitOf (bigEndian : Bool) (a b : UInt8) : Nat :=
  if bigEndian then a.toNat * 256 + b.toNat else b.toNat * 256 + a.toNat

/-- The letters of UTF-16, up to the first one that is no character. -/
def utf16Letters (bigEndian : Bool) : Bytes → List Letter
  | [] => []
  | [_] => [⟨none, 2⟩]
  | a :: b :: rest =>
    let unit := unitOf bigEndian a b
    if unit < 0xD800 || 0xE000 ≤ unit then
      .ofChar (Char.ofNat unit) 2 :: utf16Letters bigEndian rest
    else if 0xDC00 ≤ unit then
      [⟨none, 2⟩]
    else
      match rest with
      | c :: d :: later =>
        let low := unitOf bigEndian c d
        if 0xDC00 ≤ low && low < 0xE000 then
          .ofChar (Char.ofNat (0x10000 + (unit - 0xD800) * 0x400 + (low - 0xDC00))) 4 ::
            utf16Letters bigEndian later
        else
          [⟨none, 4⟩]
      | _ => [⟨none, 4⟩]

def Encoding.letters : Encoding → Bytes → List Letter
  | .utf8, text => (Utf8.pieces text).map utf8Letter
  | .utf16 bigEndian, text => utf16Letters bigEndian text

/-! ## Blocks -/

/-- The number of bytes in a block. A letter that does not fit in begins the next one. -/
def blockSize : Nat :=
  512

/-- The place where the reading of letters has come to. -/
structure BlockPlace where
  /-- The number of bytes that are left. -/
  left : Nat
  /-- The number of bytes that the block holds already. -/
  filled : Nat
  /-- The number of letters before the block. -/
  before : Nat := 0
  /-- The number of letters. -/
  count : Nat := 0

/-- Whether as many bytes are still in the block. -/
def BlockPlace.fits (place : BlockPlace) (width : Nat) : Bool :=
  place.filled + width ≤ blockSize

/-- Puts a letter into the block, or into the next one. -/
def BlockPlace.add (place : BlockPlace) (width : Nat) : BlockPlace where
  left := place.left - width
  filled := if place.fits width then place.filled + width else width
  before := if place.fits width then place.before else place.count
  count := place.count + 1

/-- The number of characters where a text breaks off, if it does. What breaks off at the end of
the bytes is only noticed there. -/
def breakOff? : BlockPlace → List Letter → Option Nat
  | _, [] => none
  | place, ⟨some _, width⟩ :: rest => breakOff? (place.add width) rest
  | place, ⟨none, width⟩ :: _ =>
    if place.fits width && width ≤ place.left then some place.before else some place.count

/-- The characters that can be read, and whether they are all of the text. -/
structure Source where
  chars : List Char
  complete : Bool := true
deriving DecidableEq

/-- The characters of some bytes. The mark of the encoding is left out. -/
def Source.ofBytes (bytes : Bytes) : Source :=
  let mark := ((Encoding.ofMark? bytes).map Encoding.mark).getD []
  let text := bytes.drop mark.length
  let letters := ((Encoding.ofMark? bytes).getD .utf8).letters text
  let chars := letters.filterMap Letter.char?
  match breakOff? { left := text.length, filled := mark.length } letters with
  | none => { chars := chars }
  | some count => { chars := chars.take count, complete := false }

end Yaml
end PhpLint
