import Mathlib.Tactic.SplitIfs
import PhpLint.Text.Utf8

namespace PhpLint
namespace Utf8

/-!
# Reading encoded characters

The encoding of a character is found again at the front of any text that begins
with it, because no encoding is the beginning of another one: the first byte
tells how many bytes there are.  It follows that cutting a text into pieces is
lossless, that the pieces of an encoded list of characters are these characters,
and that the well-formed texts are exactly the encodings.
-/

/-! ## One character -/

theorem toNat_lt_limit (c : Char) : c.toNat < 0x110000 := by
  rcases c.valid with low | ⟨_, high⟩
  · exact Nat.lt_trans low (by decide)
  · exact high

/-- The number of bytes of an encoding, as its first byte tells it. -/
def announced (first : UInt8) : Nat :=
  if first.toNat < 0x80 then 1
  else if first.toNat < 0xE0 then 2
  else if first.toNat < 0xF0 then 3
  else 4

/-- An encoding announces its length and carries the number of its character. -/
theorem utf8EncodeChar_eq_cons (c : Char) :
    ∃ first others, String.utf8EncodeChar c = first :: others ∧
      announced first = others.length + 1 ∧ payload (first :: others) = c.toNat := by
  have limit : c.toNat < 0x110000 := toNat_lt_limit c
  unfold String.utf8EncodeChar
  simp only [Char.toNat] at limit ⊢
  split_ifs with one two three
  · refine ⟨_, _, rfl, ?_, ?_⟩
    · simp only [announced, UInt8.toNat_ofNat', List.length_nil]
      rw [if_pos (by omega)]
    · simp only [payload, UInt8.toNat_ofNat']
      omega
  · refine ⟨_, _, rfl, ?_, ?_⟩
    · simp only [announced, UInt8.toNat_ofNat', List.length_cons, List.length_nil]
      rw [if_neg (by omega), if_pos (by omega)]
    · simp only [payload, UInt8.toNat_ofNat']
      omega
  · refine ⟨_, _, rfl, ?_, ?_⟩
    · simp only [announced, UInt8.toNat_ofNat', List.length_cons, List.length_nil]
      rw [if_neg (by omega), if_neg (by omega), if_pos (by omega)]
    · simp only [payload, UInt8.toNat_ofNat']
      omega
  · refine ⟨_, _, rfl, ?_, ?_⟩
    · simp only [announced, UInt8.toNat_ofNat', List.length_cons, List.length_nil]
      rw [if_neg (by omega), if_neg (by omega), if_neg (by omega)]
    · simp only [payload, UInt8.toNat_ofNat']
      omega

theorem payload_utf8EncodeChar (c : Char) :
    payload (String.utf8EncodeChar c) = c.toNat := by
  rcases utf8EncodeChar_eq_cons c with ⟨first, others, encoded, _, number⟩
  rw [encoded, number]

theorem utf8EncodeChar_injective {c d : Char}
    (same : String.utf8EncodeChar c = String.utf8EncodeChar d) : c = d := by
  have numbers : c.toNat = d.toNat := by
    rw [← payload_utf8EncodeChar c, same, payload_utf8EncodeChar]
  rw [← Char.ofNat_toNat c, numbers, Char.ofNat_toNat]

/-- No encoding is a proper beginning of another one. -/
theorem eq_of_utf8EncodeChar_prefix {c d : Char}
    (beginning : String.utf8EncodeChar c <+: String.utf8EncodeChar d) : c = d := by
  rcases utf8EncodeChar_eq_cons c with ⟨first, others, encoded, width, _⟩
  rcases utf8EncodeChar_eq_cons d with ⟨first', others', encoded', width', _⟩
  have sameFirst : first = first' := by
    rw [encoded, encoded', List.cons_prefix_cons] at beginning
    exact beginning.1
  have sameLength : (String.utf8EncodeChar c).length = (String.utf8EncodeChar d).length := by
    rw [encoded, encoded', List.length_cons, List.length_cons, ← width, ← width', sameFirst]
  exact utf8EncodeChar_injective (beginning.eq_of_length sameLength)

theorem charOf?_eq_some_iff {bytes : Bytes} {c : Char} :
    charOf? bytes = some c ↔ String.utf8EncodeChar c = bytes := by
  constructor
  · intro found
    unfold charOf? at found
    split at found
    · next encodes =>
      rw [Option.some.injEq] at found
      rw [← found]
      exact encodes
    · cases found
  · rintro rfl
    unfold charOf?
    rw [payload_utf8EncodeChar, Char.ofNat_toNat, if_pos rfl]

theorem length_utf8EncodeChar_mem (c : Char) :
    (String.utf8EncodeChar c).length ∈ [1, 2, 3, 4] := by
  rcases utf8EncodeChar_eq_cons c with ⟨first, others, encoded, width, _⟩
  rw [encoded, List.length_cons, ← width]
  unfold announced
  repeat' split
  all_goals decide

/-- A byte below 0x80 stands for itself and belongs to no longer encoding. -/
theorem forall_mem_utf8EncodeChar (c : Char) :
    ∀ b ∈ String.utf8EncodeChar c, 0x80 ≤ b.toNat ∨ b.toNat = c.toNat := by
  have limit : c.toNat < 0x110000 := toNat_lt_limit c
  unfold String.utf8EncodeChar
  simp only [Char.toNat] at limit ⊢
  repeat' split
  all_goals
    simp only [List.forall_mem_cons, UInt8.toNat_ofNat', List.not_mem_nil, false_implies,
      implies_true, and_true]
    omega

/-! ## The front of a text -/

/-- The widths are tried in increasing order, so a width that reaches past the end of the
text is never the first to succeed. -/
theorem of_front?_eq_some {bytes : Bytes} {c : Char} {width : Nat}
    (found : front? bytes = some (c, width)) :
    String.utf8EncodeChar c <+: bytes ∧ width = (String.utf8EncodeChar c).length := by
  rcases List.findSome?_eq_some_iff.mp found with
    ⟨tried, chosen, untried, widths, success, failures⟩
  rcases Option.map_eq_some_iff.mp success with ⟨d, encoded, pair⟩
  rcases Prod.mk.injEq .. ▸ pair with ⟨rfl, rfl⟩
  rw [charOf?_eq_some_iff] at encoded
  refine ⟨encoded ▸ List.take_prefix chosen bytes, ?_⟩
  have length : (String.utf8EncodeChar d).length = min chosen bytes.length := by
    rw [encoded, List.length_take]
  by_cases short : bytes.length < chosen
  · exfalso
    have ordered : List.Pairwise (· < ·) (tried ++ chosen :: untried) := by
      rw [← widths]
      decide
    have listed : bytes.length ∈ tried ++ chosen :: untried := by
      rw [← widths, ← Nat.min_eq_right (Nat.le_of_lt short), ← length]
      exact length_utf8EncodeChar_mem d
    have earlier : bytes.length ∈ tried := by
      rcases List.mem_append.mp listed with member | member
      · exact member
      · rcases List.mem_cons.mp member with same | later
        · omega
        · have after := (List.pairwise_cons.mp (List.pairwise_append.mp ordered).2.1).1 _ later
          omega
    have failure := failures _ earlier
    rw [List.take_of_length_le (Nat.le_of_lt short)] at encoded
    rw [List.take_length, charOf?_eq_some_iff.mpr encoded] at failure
    cases failure
  · rw [length]
    omega

theorem front?_eq_some_iff {bytes : Bytes} {c : Char} {width : Nat} :
    front? bytes = some (c, width) ↔
      String.utf8EncodeChar c <+: bytes ∧ width = (String.utf8EncodeChar c).length := by
  constructor
  · exact of_front?_eq_some
  · rintro ⟨beginning, rfl⟩
    have succeeds : (front? bytes).isSome := by
      rw [front?, List.findSome?_isSome_iff]
      refine ⟨_, length_utf8EncodeChar_mem c, ?_⟩
      rw [← List.prefix_iff_eq_take.mp beginning, charOf?_eq_some_iff.mpr rfl]
      rfl
    rcases Option.isSome_iff_exists.mp succeeds with ⟨⟨d, width⟩, found⟩
    rcases of_front?_eq_some found with ⟨beginning', rfl⟩
    rcases List.prefix_or_prefix_of_prefix beginning' beginning with nested | nested
    · rw [found, eq_of_utf8EncodeChar_prefix nested]
    · rw [found, eq_of_utf8EncodeChar_prefix nested]

/-! ## The pieces of a text -/

theorem piecesAfter_eq_pieces_drop (skip : Nat) (bytes : Bytes) :
    piecesAfter skip bytes = pieces (bytes.drop skip) := by
  induction bytes generalizing skip with
  | nil => simp only [List.drop_nil, pieces, piecesAfter]
  | cons b rest inductionHypothesis =>
    cases skip with
    | zero => rfl
    | succ skip => exact inductionHypothesis skip

/-- An encoding at the front is the first piece. -/
theorem pieces_utf8EncodeChar_append (c : Char) (rest : Bytes) :
    pieces (String.utf8EncodeChar c ++ rest) = .scalar c :: pieces rest := by
  have atFront := front?_eq_some_iff.mpr
    ⟨List.prefix_append (String.utf8EncodeChar c) rest, rfl⟩
  rcases utf8EncodeChar_eq_cons c with ⟨first, others, encoded, _⟩
  rw [encoded, List.cons_append] at atFront ⊢
  rw [pieces, piecesAfter, atFront]
  simp only [List.length_cons, Nat.add_sub_cancel]
  rw [piecesAfter_eq_pieces_drop, List.drop_left]

theorem pieces_encode (text : List Char) : pieces (encode text) = text.map .scalar := by
  induction text with
  | nil => rfl
  | cons c rest inductionHypothesis =>
    rw [encode, List.flatMap_cons, pieces_utf8EncodeChar_append, List.map_cons,
      ← inductionHypothesis, encode]

/-- A byte at which no encoding begins is a piece of its own. -/
theorem pieces_stray {b : UInt8} {rest : Bytes}
    (noEncoding : ∀ c, ¬ String.utf8EncodeChar c <+: b :: rest) :
    pieces (b :: rest) = .stray b :: pieces rest := by
  cases front : front? (b :: rest) with
  | none =>
    rw [pieces, piecesAfter, front]
    rfl
  | some read =>
    rcases read with ⟨c, width⟩
    exact absurd (front?_eq_some_iff.mp front).1 (noEncoding c)

/-- To prove a property of every text, go through its pieces from the right. -/
theorem induction_on_pieces {motive : Bytes → Prop} (bytes : Bytes) (nil : motive [])
    (scalar : ∀ c rest, motive rest → motive (String.utf8EncodeChar c ++ rest))
    (stray : ∀ b rest, (∀ c, ¬ String.utf8EncodeChar c <+: b :: rest) → motive rest →
      motive (b :: rest)) :
    motive bytes := by
  induction size : bytes.length using Nat.strongRecOn generalizing bytes with
  | ind size' inductionHypothesis =>
    cases bytes with
    | nil => exact nil
    | cons b rest =>
      by_cases encoding : ∃ c, String.utf8EncodeChar c <+: b :: rest
      · rcases encoding with ⟨c, after, split⟩
        have shorter : after.length < size' := by
          rcases utf8EncodeChar_eq_cons c with ⟨first, others, encoded, _⟩
          rw [← size, ← split, encoded, List.length_append, List.length_cons]
          omega
        rw [← split]
        exact scalar c after (inductionHypothesis after.length shorter after rfl)
      · have shorter : rest.length < size' := by
          rw [← size]
          exact Nat.lt_succ_self rest.length
        exact stray b rest (not_exists.mp encoding)
          (inductionHypothesis rest.length shorter rest rfl)

/-- Cutting a text into pieces loses nothing. -/
theorem unpieces_pieces (bytes : Bytes) : unpieces (pieces bytes) = bytes := by
  induction bytes using induction_on_pieces with
  | nil => rfl
  | scalar c rest inductionHypothesis =>
    rw [pieces_utf8EncodeChar_append, unpieces, List.flatMap_cons, ← unpieces,
      inductionHypothesis]
    rfl
  | stray b rest noEncoding inductionHypothesis =>
    rw [pieces_stray noEncoding, unpieces, List.flatMap_cons, ← unpieces, inductionHypothesis]
    rfl

/-! ## Well-formed texts -/

theorem chars_encode (text : List Char) : chars (encode text) = text := by
  rw [chars, pieces_encode, List.map_map]
  exact List.map_id _

theorem length_le_length_encode (text : List Char) : text.length ≤ (encode text).length := by
  induction text with
  | nil => exact Nat.le_refl 0
  | cons c rest inductionHypothesis =>
    rcases utf8EncodeChar_eq_cons c with ⟨first, others, encoded, _, _⟩
    rw [encode, List.flatMap_cons, ← encode, encoded, List.length_append, List.length_cons,
      List.length_cons]
    omega

theorem valid_encode (text : List Char) : valid (encode text) = true := by
  rw [valid, pieces_encode, List.all_map]
  exact List.all_eq_true.mpr fun _ _ => rfl

/-- The text as a reader of UTF-8 sees it: characters stay, and the replacement character
stands for each stray byte. -/
def readable (text : Bytes) : Bytes :=
  encode (chars text)

theorem readable_eq_of_valid {text : Bytes} (wellFormed : valid text = true) :
    readable text = text := by
  have scalars : ∀ piece ∈ pieces text, String.utf8EncodeChar piece.char = piece.bytes := by
    intro piece member
    have notStray := List.all_eq_true.mp wellFormed piece member
    cases piece with
    | scalar c => rfl
    | stray b => cases notStray
  calc readable text
      = (pieces text).flatMap (fun piece => String.utf8EncodeChar piece.char) := by
        rw [readable, encode, chars, List.flatMap_map]
    _ = unpieces (pieces text) := by
        rw [unpieces, List.flatMap_def, List.flatMap_def, List.map_congr_left scalars]
    _ = text := unpieces_pieces text

theorem readable_eq_iff (text : Bytes) :
    readable text = text ↔ ∃ characters, text = encode characters := by
  constructor
  · exact fun unchanged => ⟨chars text, unchanged.symm⟩
  · rintro ⟨characters, rfl⟩
    rw [readable, chars_encode]

/-- A text and the same text with the replacement character for every byte at which no
encoding begins. -/
inductive Replaced : Bytes → Bytes → Prop where
  | nil : Replaced [] []
  | scalar (c : Char) {rest seen : Bytes} :
      Replaced rest seen →
      Replaced (String.utf8EncodeChar c ++ rest) (String.utf8EncodeChar c ++ seen)
  | stray {b : UInt8} {rest seen : Bytes} :
      (∀ c, ¬ String.utf8EncodeChar c <+: b :: rest) → Replaced rest seen →
      Replaced (b :: rest) (String.utf8EncodeChar replacement ++ seen)

theorem replaced_readable (text : Bytes) : Replaced text (readable text) := by
  induction text using induction_on_pieces with
  | nil => exact .nil
  | scalar c rest inductionHypothesis =>
    rw [readable, chars, pieces_utf8EncodeChar_append]
    exact .scalar c inductionHypothesis
  | stray b rest noEncoding inductionHypothesis =>
    rw [readable, chars, pieces_stray noEncoding]
    exact .stray noEncoding inductionHypothesis

theorem readable_utf8 (text : String) : readable (utf8 text) = utf8 text :=
  (readable_eq_iff _).mpr ⟨text.toList, rfl⟩

theorem valid_utf8 (text : String) : valid (utf8 text) = true :=
  valid_encode text.toList

theorem valid_append {first second : Bytes} (validFirst : valid first = true)
    (validSecond : valid second = true) : valid (first ++ second) = true := by
  rw [← readable_eq_of_valid validFirst, ← readable_eq_of_valid validSecond, readable, readable,
    encode, encode, ← List.flatMap_append]
  exact valid_encode _

theorem valid_flatMap {α : Type} {items : List α} {spell : α → Bytes}
    (validItems : ∀ item ∈ items, valid (spell item) = true) :
    valid (items.flatMap spell) = true := by
  induction items with
  | nil => rfl
  | cons item items inductionHypothesis =>
    rw [List.flatMap_cons]
    exact valid_append (validItems item List.mem_cons_self)
      (inductionHypothesis fun item member => validItems item (List.mem_cons_of_mem _ member))

theorem valid_of_low {text : Bytes} (low : ∀ b ∈ text, b.toNat < 0x80) : valid text = true := by
  have single : ∀ b ∈ text, valid [b] = true := by
    intro b member
    have isLow := low b member
    have code : (Char.ofNat b.toNat).toNat = b.toNat := by
      rw [Char.ofNat, dif_pos (Or.inl (by omega))]
      rfl
    have encoded : encode [Char.ofNat b.toNat] = [b] := by
      rw [encode, List.flatMap_singleton, String.utf8EncodeChar]
      rw [Char.toNat] at code
      rw [code, if_pos (by omega), UInt8.ofNat_toNat]
    rw [← encoded]
    exact valid_encode _
  have whole := valid_flatMap single
  rwa [List.flatMap_singleton'] at whole

end Utf8
end PhpLint
