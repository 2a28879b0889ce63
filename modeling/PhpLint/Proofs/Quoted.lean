import PhpLint.Proofs.Numeral
import PhpLint.Proofs.Utf8

namespace PhpLint
namespace Quoted

/-!
# Quoted texts read back

Quoting is lossless for every byte string: a reader that undoes the escapes gives
the text back, stray bytes included, because a stray byte and a character of the
same number are escaped differently. A quoted text has no control characters, so
it stands on one line whatever it quotes.

The reader follows the grammar of quoted texts and not the writer. It refuses an
escape that it does not know, a number that is no character, a line feed and
anything after the closing quote.
-/

/-! ## The reader -/

/-- The byte that a letter stands for after a backslash. -/
def escaped? (letter : UInt8) : Option UInt8 :=
  if letter = Bytes.ascii 'a' then some 0x07
  else if letter = Bytes.ascii 'b' then some 0x08
  else if letter = Bytes.ascii 't' then some 0x09
  else if letter = Bytes.ascii 'n' then some 0x0A
  else if letter = Bytes.ascii 'v' then some 0x0B
  else if letter = Bytes.ascii 'f' then some 0x0C
  else if letter = Bytes.ascii 'r' then some 0x0D
  else if letter = quote || letter = backslash then some letter
  else none

/-- The encoding of the character with a number. -/
def character? (n : Nat) : Option Bytes :=
  if (Char.ofNat n).toNat = n then some (String.utf8EncodeChar (Char.ofNat n)) else none

/-- The bytes that the escape at the front stands for, of which the backslash has been read,
and the number of its own bytes. -/
def escape? : Bytes → Option (Bytes × Nat)
  | [] => none
  | letter :: rest =>
    match escaped? letter with
    | some b => some ([b], 1)
    | none =>
      if letter = Bytes.ascii 'x' then
        (number? 2 rest).map fun n => ([UInt8.ofNat n], 3)
      else if letter = Bytes.ascii 'u' then
        ((number? 4 rest).bind character?).map fun text => (text, 5)
      else if letter = Bytes.ascii 'U' then
        ((number? 8 rest).bind character?).map fun text => (text, 9)
      else
        none

/-- The text up to the closing quote, with which the bytes have to end, after the first `skip`
bytes. -/
def readAfter : Nat → Bytes → Option Bytes
  | _, [] => none
  | skip + 1, _ :: rest => readAfter skip rest
  | 0, b :: rest =>
    if b = quote then
      if rest.isEmpty then some [] else none
    else if b = backslash then
      match escape? rest with
      | none => none
      | some (text, width) => (readAfter width rest).map fun later => text ++ later
    else if b = 0x0A then
      none
    else
      (readAfter 0 rest).map fun later => b :: later

/-- The text that a quoted form stands for. -/
def decode? : Bytes → Option Bytes
  | [] => none
  | b :: rest => if b = quote then readAfter 0 rest else none

/-! ## Escapes -/

theorem readAfter_eq_readAfter_drop (skip : Nat) (bytes : Bytes) :
    readAfter skip bytes = readAfter 0 (bytes.drop skip) := by
  induction bytes generalizing skip with
  | nil => rw [List.drop_nil, readAfter, readAfter]
  | cons b rest inductionHypothesis =>
    cases skip with
    | zero => rfl
    | succ skip => rw [readAfter, inductionHypothesis, List.drop_succ_cons]

theorem readAfter_escape {escape text rest : Bytes}
    (reads : escape? (escape ++ rest) = some (text, escape.length)) :
    readAfter 0 (backslash :: escape ++ rest) =
      (readAfter 0 rest).map fun later => text ++ later := by
  rw [List.cons_append, readAfter, if_neg (by decide), if_pos rfl, reads]
  dsimp only
  rw [readAfter_eq_readAfter_drop, List.drop_left]

theorem character?_toNat (c : Char) : character? c.toNat = some (String.utf8EncodeChar c) := by
  rw [character?, Char.ofNat_toNat, if_pos rfl]

theorem readAfter_letter {letter b : UInt8} (stands : escaped? letter = some b) (rest : Bytes) :
    readAfter 0 ([backslash, letter] ++ rest) =
      (readAfter 0 rest).map fun later => [b] ++ later := by
  have reads : escape? ([letter] ++ rest) = some ([b], 1) := by
    rw [List.singleton_append, escape?, stands]
  exact readAfter_escape reads

/-- An escape of a letter and digits is read like the number that the digits spell. -/
theorem readAfter_digits {letter : UInt8} {count n : Nat} {text : Bytes} (rest : Bytes)
    (reads : escape? (letter :: (hexDigits count n ++ rest)) = some (text, count + 1)) :
    readAfter 0 ([backslash, letter] ++ hexDigits count n ++ rest) =
      (readAfter 0 rest).map fun later => text ++ later := by
  have whole : (letter :: hexDigits count n).length = count + 1 := by
    rw [List.length_cons, length_hexDigits]
  have readsWhole : escape? ((letter :: hexDigits count n) ++ rest) =
      some (text, (letter :: hexDigits count n).length) := by
    rw [whole]
    exact reads
  exact readAfter_escape readsWhole

theorem readAfter_byte {n : Nat} (small : n < 256) (rest : Bytes) :
    readAfter 0 ([backslash, Bytes.ascii 'x'] ++ hexDigits 2 n ++ rest) =
      (readAfter 0 rest).map fun later => [UInt8.ofNat n] ++ later := by
  apply readAfter_digits
  rw [escape?, number?_hexDigits (by decide) small]
  rfl

theorem readAfter_fourDigits {c : Char} (small : c.toNat < 0x10000) (rest : Bytes) :
    readAfter 0 ([backslash, Bytes.ascii 'u'] ++ hexDigits 4 c.toNat ++ rest) =
      (readAfter 0 rest).map fun later => String.utf8EncodeChar c ++ later := by
  apply readAfter_digits
  rw [escape?, number?_hexDigits (by decide) small, Option.bind_some, character?_toNat]
  rfl

theorem readAfter_eightDigits (c : Char) (rest : Bytes) :
    readAfter 0 ([backslash, Bytes.ascii 'U'] ++ hexDigits 8 c.toNat ++ rest) =
      (readAfter 0 rest).map fun later => String.utf8EncodeChar c ++ later := by
  have limit : c.toNat < 16 ^ 8 := Nat.lt_trans (Utf8.toNat_lt_limit c) (by decide)
  apply readAfter_digits
  rw [escape?, number?_hexDigits (by decide) limit, Option.bind_some, character?_toNat]
  rfl

/-! ## Characters that stand for themselves -/

theorem readAfter_literal {front : Bytes} (rest : Bytes)
    (literal : ∀ b ∈ front, b ≠ quote ∧ b ≠ backslash ∧ b ≠ 0x0A) :
    readAfter 0 (front ++ rest) = (readAfter 0 rest).map fun later => front ++ later := by
  induction front with
  | nil => exact Option.map_id'.symm
  | cons b front inductionHypothesis =>
    rcases literal b List.mem_cons_self with ⟨notQuote, notBackslash, notFeed⟩
    have later := inductionHypothesis fun b member => literal b (List.mem_cons_of_mem _ member)
    rw [List.cons_append, readAfter, if_neg notQuote, if_neg notBackslash, if_neg notFeed, later,
      Option.map_map]
    rfl

/-- The table of printable characters is only needed above the ASCII characters, so what is
printable is no control character. -/
theorem le_toNat_of_isPrintable {c : Char} (printable : Unicode.isPrintable c = true) :
    0x20 ≤ c.toNat := by
  unfold Unicode.isPrintable at printable
  split at printable
  · exact of_decide_eq_true printable
  · omega

theorem utf8EncodeChar_of_lt {c : Char} (low : c.toNat < 0x80) :
    String.utf8EncodeChar c = [UInt8.ofNat c.toNat] := by
  rw [Char.toNat] at low ⊢
  rw [String.utf8EncodeChar, if_pos (by omega)]

theorem not_mem_utf8EncodeChar {c : Char} {b : UInt8} (low : b.toNat < 0x80)
    (different : c.toNat ≠ b.toNat) : b ∉ String.utf8EncodeChar c := by
  intro member
  rcases Utf8.forall_mem_utf8EncodeChar c b member with high | same
  · omega
  · exact different same.symm

/-! ## The forms of a character -/

/-- How a character may be spelled between quotes. -/
inductive Spelled (c : Char) : Bytes → Prop where
  | letter {letter b : UInt8} (stands : escaped? letter = some b)
      (encoded : String.utf8EncodeChar c = [b]) : Spelled c [backslash, letter]
  | itself (visible : 0x20 ≤ c.toNat) (notQuote : c ≠ '"') (notBackslash : c ≠ '\\') :
      Spelled c (String.utf8EncodeChar c)
  | twoDigits (low : c.toNat < 0x80) :
      Spelled c ([backslash, Bytes.ascii 'x'] ++ hexDigits 2 c.toNat)
  | fourDigits (small : c.toNat < 0x10000) :
      Spelled c ([backslash, Bytes.ascii 'u'] ++ hexDigits 4 c.toNat)
  | eightDigits : Spelled c ([backslash, Bytes.ascii 'U'] ++ hexDigits 8 c.toNat)

theorem escaped?_of_controlLetter? {n : Nat} {letter : Char}
    (found : controlLetter? n = some letter) :
    escaped? (Bytes.ascii letter) = some (UInt8.ofNat n) ∧ n < 0x80 := by
  unfold controlLetter? at found
  split at found <;> cases found <;> decide

theorem spelled_encodeChar (c : Char) : Spelled c (encodeChar c) := by
  unfold encodeChar
  simp only [Bool.or_eq_true, decide_eq_true_eq]
  split
  · next marked =>
    rcases marked with rfl | rfl
    · exact .letter rfl rfl
    · exact .letter rfl rfl
  · next unmarked =>
    rw [not_or] at unmarked
    split
    · next printable => exact .itself (le_toNat_of_isPrintable printable) unmarked.1 unmarked.2
    · cases found : controlLetter? c.toNat with
      | some letter =>
        rcases escaped?_of_controlLetter? found with ⟨stands, low⟩
        exact .letter stands (utf8EncodeChar_of_lt low)
      | none =>
        dsimp only
        split
        · exact .twoDigits (by omega)
        · split
          · next small => exact .fourDigits small
          · exact .eightDigits

/-! ## The round trip -/

/-- A character is read back from each of its forms. -/
theorem Spelled.readAfter_eq {c : Char} {spelling : Bytes} (spelled : Spelled c spelling)
    (rest : Bytes) :
    readAfter 0 (spelling ++ rest) =
      (readAfter 0 rest).map fun later => String.utf8EncodeChar c ++ later := by
  cases spelled with
  | letter stands encoded =>
    rw [encoded]
    exact readAfter_letter stands rest
  | itself visible notQuote notBackslash =>
    apply readAfter_literal
    intro b member
    refine ⟨?_, ?_, ?_⟩
    · rintro rfl
      exact not_mem_utf8EncodeChar (by decide)
        (fun same => notQuote (Char.toNat_inj.mp same)) member
    · rintro rfl
      exact not_mem_utf8EncodeChar (by decide)
        (fun same => notBackslash (Char.toNat_inj.mp same)) member
    · rintro rfl
      have number : (0x0A : UInt8).toNat = 0x0A := rfl
      exact not_mem_utf8EncodeChar (by decide) (by omega) member
  | twoDigits low =>
    rw [utf8EncodeChar_of_lt low]
    exact readAfter_byte (by omega) rest
  | fourDigits small => exact readAfter_fourDigits small rest
  | eightDigits => exact readAfter_eightDigits c rest

theorem readAfter_encodePiece (piece : Utf8.Piece) (rest : Bytes) :
    readAfter 0 (encodePiece piece ++ rest) =
      (readAfter 0 rest).map fun later => piece.bytes ++ later := by
  cases piece with
  | scalar c => exact (spelled_encodeChar c).readAfter_eq rest
  | stray b =>
    have read := readAfter_byte b.toNat_lt rest
    rw [UInt8.ofNat_toNat] at read
    exact read

theorem readAfter_pieces (pieces : List Utf8.Piece) :
    readAfter 0 (pieces.flatMap encodePiece ++ [quote]) = some (Utf8.unpieces pieces) := by
  induction pieces with
  | nil => rfl
  | cons piece others inductionHypothesis =>
    rw [List.flatMap_cons, List.append_assoc, readAfter_encodePiece, inductionHypothesis]
    rfl

/-- Quoting loses nothing. -/
theorem decode?_encode (text : Bytes) : decode? (encode text) = some text := by
  rw [encode, List.append_assoc, List.singleton_append, decode?, if_pos rfl, readAfter_pieces,
    Utf8.unpieces_pieces]

/-! ## No control characters -/

/-- The bytes that may stand in a line. -/
def Visible (text : Bytes) : Prop :=
  ∀ b ∈ text, 0x20 ≤ b.toNat

theorem visible_append {first second : Bytes} (visibleFirst : Visible first)
    (visibleSecond : Visible second) : Visible (first ++ second) := by
  intro b member
  rcases List.mem_append.mp member with inFirst | inSecond
  · exact visibleFirst b inFirst
  · exact visibleSecond b inSecond

theorem visible_hexDigits (count n : Nat) : Visible (hexDigits count n) := by
  intro b member
  have digit := Numeral.toNat_of_isDigitOf (hexDigits_all_digits count n b member)
  omega

theorem visible_escape {letter : UInt8} (visible : 0x20 ≤ letter.toNat) :
    Visible [backslash, letter] := by
  intro b member
  rcases List.mem_cons.mp member with rfl | last
  · decide
  · rw [List.mem_singleton.mp last]
    exact visible

theorem le_toNat_of_escaped? {letter b : UInt8} (stands : escaped? letter = some b) :
    0x20 ≤ letter.toNat := by
  have noControl : ∀ n < 0x20, escaped? (UInt8.ofNat n) = none := by decide
  apply Classical.byContradiction
  intro control
  have nothing := noControl letter.toNat (by omega)
  rw [UInt8.ofNat_toNat, stands] at nothing
  cases nothing

theorem Spelled.visible {c : Char} {spelling : Bytes} (spelled : Spelled c spelling) :
    Visible spelling := by
  cases spelled with
  | letter stands _ => exact visible_escape (le_toNat_of_escaped? stands)
  | itself visible _ _ =>
    intro b member
    rcases Utf8.forall_mem_utf8EncodeChar c b member with high | same
    · omega
    · omega
  | twoDigits _ => exact visible_append (visible_escape (by decide)) (visible_hexDigits _ _)
  | fourDigits _ => exact visible_append (visible_escape (by decide)) (visible_hexDigits _ _)
  | eightDigits => exact visible_append (visible_escape (by decide)) (visible_hexDigits _ _)

theorem visible_encodePiece (piece : Utf8.Piece) : Visible (encodePiece piece) := by
  cases piece with
  | scalar c => exact (spelled_encodeChar c).visible
  | stray b => exact visible_append (visible_escape (by decide)) (visible_hexDigits 2 b.toNat)

theorem visible_encode (text : Bytes) : Visible (encode text) := by
  have mark : Visible [quote] := by
    intro b member
    rw [List.mem_singleton.mp member]
    decide
  have content : Visible ((Utf8.pieces text).flatMap encodePiece) := by
    intro b member
    rcases List.mem_flatMap.mp member with ⟨piece, _, inside⟩
    exact visible_encodePiece piece b inside
  exact visible_append (visible_append mark content) mark

end Quoted
end PhpLint
