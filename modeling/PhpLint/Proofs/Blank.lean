import Mathlib.Data.List.DropRight
import PhpLint.Proofs.Bytes
import PhpLint.Proofs.Utf8
import PhpLint.Text.Blank

namespace PhpLint

/-!
# White space around a text

The first byte of an encoded character is never one of its later bytes. So the pieces
of two texts that stand one behind the other are those of the first and then those of
the second, unless the second begins in the middle of an encoding. Whatever the bytes
of a text are, white space around it is therefore found from both ends: trimming gives
the only text between white space that neither begins nor ends with some.
-/

namespace Utf8

/-! ## Where texts meet -/

/-- A byte that stands in encodings, but not at the beginning of one. -/
def IsContinuation (b : UInt8) : Prop :=
  0x80 ≤ b.toNat ∧ b.toNat < 0xC0

theorem utf8EncodeChar_continues (c : Char) :
    ∃ first others, String.utf8EncodeChar c = first :: others ∧ ¬ IsContinuation first ∧
      ∀ b ∈ others, IsContinuation b := by
  have limit : c.toNat < 0x110000 := toNat_lt_limit c
  unfold String.utf8EncodeChar
  simp only [Char.toNat] at limit ⊢
  split_ifs with one two three
  all_goals
    refine ⟨_, _, rfl, ?_, ?_⟩
    · simp only [IsContinuation, UInt8.toNat_ofNat']
      omega
    · simp only [IsContinuation, List.forall_mem_cons, UInt8.toNat_ofNat', List.not_mem_nil,
        false_implies, implies_true, and_true]
      try omega

/-- A text does not begin in the middle of an encoding. -/
def Begins (text : Bytes) : Prop :=
  ∀ b ∈ text.head?, ¬ IsContinuation b

theorem begins_encode (text : List Char) : Begins (encode text) := by
  cases text with
  | nil =>
    intro b impossible
    cases impossible
  | cons c rest =>
    rcases utf8EncodeChar_continues c with ⟨first, others, encoded, begins, _⟩
    intro b isFirst
    rw [encode, List.flatMap_cons, encoded, List.cons_append, List.head?_cons] at isFirst
    cases isFirst
    exact begins

/-- No encoding reaches from one text into the next if that begins properly. -/
theorem prefix_of_prefix_append {c : Char} {first second : Bytes} (nonempty : first ≠ [])
    (begins : Begins second) (beginning : String.utf8EncodeChar c <+: first ++ second) :
    String.utf8EncodeChar c <+: first := by
  rcases Bytes.prefix_append_cases beginning with inside | ⟨b, more, encoded, ⟨rest, rfl⟩⟩
  · exact inside
  · exfalso
    -- the byte is not the first one of the encoding, because some text comes before it
    rcases utf8EncodeChar_continues c with ⟨lead, later, split, _, continues⟩
    rcases List.exists_cons_of_ne_nil nonempty with ⟨front, others, rfl⟩
    rw [split, List.cons_append, List.cons.injEq] at encoded
    apply begins b rfl
    apply continues
    rw [encoded.2]
    exact List.mem_append_right _ List.mem_cons_self

theorem pieces_append {first second : Bytes} (begins : Begins second) :
    pieces (first ++ second) = pieces first ++ pieces second := by
  induction first using induction_on_pieces with
  | nil => rfl
  | scalar c rest inductionHypothesis =>
    rw [List.append_assoc, pieces_utf8EncodeChar_append, pieces_utf8EncodeChar_append,
      inductionHypothesis, List.cons_append]
  | stray b rest noEncoding inductionHypothesis =>
    have stillNoEncoding : ∀ c, ¬ String.utf8EncodeChar c <+: b :: (rest ++ second) := by
      intro c beginning
      exact noEncoding c (prefix_of_prefix_append (List.cons_ne_nil b rest) begins beginning)
    rw [List.cons_append, pieces_stray stillNoEncoding, pieces_stray noEncoding,
      inductionHypothesis, List.cons_append]

theorem pieces_append_encode (text : Bytes) (characters : List Char) :
    pieces (text ++ encode characters) = pieces text ++ characters.map .scalar := by
  rw [pieces_append (begins_encode characters), pieces_encode]

theorem pieces_encode_append (characters : List Char) (text : Bytes) :
    pieces (encode characters ++ text) = characters.map .scalar ++ pieces text := by
  induction characters with
  | nil => rfl
  | cons c rest inductionHypothesis =>
    rw [encode, List.flatMap_cons, List.append_assoc, pieces_utf8EncodeChar_append, ← encode,
      inductionHypothesis, List.map_cons, List.cons_append]

theorem unpieces_map_scalar (characters : List Char) :
    unpieces (characters.map .scalar) = encode characters := by
  rw [unpieces, encode, List.flatMap_map]
  rfl

theorem unpieces_append (first second : List Piece) :
    unpieces (first ++ second) = unpieces first ++ unpieces second :=
  List.flatMap_append

/-- Pieces of which none is a stray byte are characters. -/
theorem exists_map_scalar {accepts : Piece → Bool} (notStray : ∀ b, accepts (.stray b) = false)
    {pieces : List Piece} (accepted : ∀ piece ∈ pieces, accepts piece = true) :
    ∃ characters : List Char, (∀ c ∈ characters, accepts (.scalar c) = true) ∧
      pieces = characters.map .scalar := by
  induction pieces with
  | nil => exact ⟨[], fun _ impossible => absurd impossible List.not_mem_nil, rfl⟩
  | cons piece rest inductionHypothesis =>
    have here := accepted piece List.mem_cons_self
    rcases inductionHypothesis fun other member => accepted other (List.mem_cons_of_mem _ member)
      with ⟨characters, later, rfl⟩
    cases piece with
    | stray b => exact absurd here (Bool.eq_false_iff.mp (notStray b))
    | scalar c => exact ⟨c :: characters, List.forall_mem_cons.mpr ⟨here, later⟩, rfl⟩

/-- A text begins with a character exactly if this is its first piece. -/
theorem head?_pieces_eq_some_iff {text : Bytes} {c : Char} :
    (pieces text).head? = some (.scalar c) ↔ String.utf8EncodeChar c <+: text := by
  constructor
  · intro isFirst
    rcases List.head?_eq_some_iff.mp isFirst with ⟨others, split⟩
    rw [← unpieces_pieces text, split]
    exact List.prefix_append _ _
  · rintro ⟨rest, rfl⟩
    rw [pieces_utf8EncodeChar_append, List.head?_cons]

/-- A text ends with a character exactly if this is its last piece. -/
theorem getLast?_pieces_eq_some_iff {text : Bytes} {c : Char} :
    (pieces text).getLast? = some (.scalar c) ↔ String.utf8EncodeChar c <:+ text := by
  have single : encode [c] = String.utf8EncodeChar c := List.flatMap_singleton _ c
  constructor
  · intro isLast
    rcases List.getLast?_eq_some_iff.mp isLast with ⟨others, split⟩
    rw [← unpieces_pieces text, split, unpieces_append, ← single,
      ← unpieces_map_scalar]
    exact List.suffix_append _ _
  · rintro ⟨rest, rfl⟩
    rw [← single, pieces_append_encode]
    exact List.getLast?_concat

end Utf8

/-! ## Trimming lists -/

section Stripped

variable {α : Type} {drops : α → Bool}

/-- A list without the elements at its beginning and at its end that are to be dropped. -/
def stripped (drops : α → Bool) (list : List α) : List α :=
  (list.dropWhile drops).rdropWhile drops

theorem exists_eq_append_stripped (drops : α → Bool) (list : List α) :
    ∃ before after, (∀ x ∈ before, drops x = true) ∧ (∀ x ∈ after, drops x = true) ∧
      list = before ++ stripped drops list ++ after := by
  refine ⟨list.takeWhile drops, (list.dropWhile drops).rtakeWhile drops, ?_, ?_, ?_⟩
  · exact fun x member => List.mem_takeWhile_imp member
  · exact fun x member => List.mem_rtakeWhile_imp member
  · rw [List.append_assoc, stripped, List.rdropWhile_append_rtakeWhile,
      List.takeWhile_append_dropWhile]

theorem not_drops_of_mem_head?_stripped {list : List α} {x : α}
    (isFirst : x ∈ (stripped drops list).head?) : ¬ drops x = true := by
  -- what is dropped at the end leaves the front as it is
  rcases List.head?_eq_some_iff.mp isFirst with ⟨rest, split⟩
  have beginning := List.rdropWhile_prefix drops (list.dropWhile drops)
  rw [← stripped, split] at beginning
  have first : (list.dropWhile drops).head? = some x := by
    rcases beginning with ⟨others, same⟩
    rw [← same]
    rfl
  have kept := List.head?_dropWhile_not drops list
  rw [first] at kept
  exact Bool.eq_false_iff.mp kept

theorem not_drops_of_mem_getLast?_stripped {list : List α} {x : α}
    (isLast : x ∈ (stripped drops list).getLast?) : ¬ drops x = true := by
  rcases List.mem_getLast?_eq_getLast isLast with ⟨nonempty, rfl⟩
  exact List.rdropWhile_last_not drops (list.dropWhile drops) nonempty

/-- Between elements that are dropped, a list that neither begins nor ends with one is left. -/
theorem stripped_append {before middle after : List α}
    (dropsBefore : ∀ x ∈ before, drops x = true) (dropsAfter : ∀ x ∈ after, drops x = true)
    (front : ∀ x ∈ middle.head?, ¬ drops x = true)
    (back : ∀ x ∈ middle.getLast?, ¬ drops x = true) :
    stripped drops (before ++ middle ++ after) = middle := by
  rw [stripped, List.append_assoc, List.dropWhile_append_of_pos dropsBefore]
  cases middle with
  | nil =>
    rw [List.nil_append, List.dropWhile_eq_nil_iff.mpr dropsAfter, List.rdropWhile_nil]
  | cons x rest =>
    rw [List.cons_append, List.dropWhile_cons_of_neg (front x rfl), ← List.cons_append,
      List.rdropWhile, List.reverse_append, List.dropWhile_append_of_pos]
    · exact List.rdropWhile_eq_self_iff.mpr fun nonempty =>
        back _ (List.getLast?_eq_some_getLast nonempty)
    · exact fun y member => dropsAfter y (List.mem_reverse.mp member)

end Stripped

/-! ## Trimming texts -/

namespace Bytes

/-- Encoded characters that are all white space. -/
def IsBlank (text : Bytes) : Prop :=
  ∃ characters : List Char, (∀ c ∈ characters, isWhiteSpace c = true) ∧
    text = Utf8.encode characters

/-- A text with white space before and after it. -/
def Padded (text padded : Bytes) : Prop :=
  ∃ before after, IsBlank before ∧ IsBlank after ∧ padded = before ++ text ++ after

/-- A text without the white space at its beginning and at its end: what is left neither begins
nor ends with a white space character. -/
structure IsTrimmed (text trimmed : Bytes) : Prop where
  between : Padded trimmed text
  front : ∀ c, isWhiteSpace c = true → ¬ String.utf8EncodeChar c <+: trimmed
  back : ∀ c, isWhiteSpace c = true → ¬ String.utf8EncodeChar c <:+ trimmed

theorem isBlank_nil : IsBlank [] :=
  ⟨[], fun _ impossible => absurd impossible List.not_mem_nil, rfl⟩

theorem IsBlank.append {first second : Bytes} (isFirst : IsBlank first)
    (isSecond : IsBlank second) : IsBlank (first ++ second) := by
  rcases isFirst with ⟨characters, white, rfl⟩
  rcases isSecond with ⟨others, othersWhite, rfl⟩
  refine ⟨characters ++ others, ?_, ?_⟩
  · exact List.forall_mem_append.mpr ⟨white, othersWhite⟩
  · exact List.flatMap_append.symm

theorem Padded.trans {text padded more : Bytes} (isPadded : Padded text padded)
    (isMore : Padded padded more) : Padded text more := by
  rcases isPadded with ⟨before, after, blankBefore, blankAfter, rfl⟩
  rcases isMore with ⟨start, stop, blankStart, blankStop, rfl⟩
  refine ⟨start ++ before, after ++ stop, blankStart.append blankBefore,
    blankAfter.append blankStop, ?_⟩
  simp only [List.append_assoc]

/-- The pieces of a text are white space at its beginning, the pieces of the trimmed text, and white
space at its end. -/
theorem pieces_eq_append_trim (text : Bytes) :
    ∃ before after : List Char, (∀ c ∈ before, isWhiteSpace c = true) ∧
      (∀ c ∈ after, isWhiteSpace c = true) ∧
      text = Utf8.encode before ++ trim text ++ Utf8.encode after ∧
      Utf8.pieces (trim text) = stripped Utf8.Piece.isWhiteSpace (Utf8.pieces text) := by
  rcases exists_eq_append_stripped Utf8.Piece.isWhiteSpace (Utf8.pieces text) with
    ⟨_, _, whiteBefore, whiteAfter, split⟩
  rcases Utf8.exists_map_scalar (fun _ => rfl) whiteBefore with ⟨before, charactersBefore, rfl⟩
  rcases Utf8.exists_map_scalar (fun _ => rfl) whiteAfter with ⟨after, charactersAfter, rfl⟩
  have spelled : text = Utf8.encode before ++ trim text ++ Utf8.encode after := by
    conv_lhs => rw [← Utf8.unpieces_pieces text, split]
    rw [Utf8.unpieces_append, Utf8.unpieces_append, Utf8.unpieces_map_scalar,
      Utf8.unpieces_map_scalar]
    rfl
  refine ⟨before, after, charactersBefore, charactersAfter, spelled, ?_⟩
  have cut := congrArg Utf8.pieces spelled
  rw [Utf8.pieces_append_encode, Utf8.pieces_encode_append, split] at cut
  exact (List.append_cancel_left (List.append_cancel_right cut)).symm

theorem isTrimmed_trim (text : Bytes) : IsTrimmed text (trim text) := by
  rcases pieces_eq_append_trim text with
    ⟨before, after, whiteBefore, whiteAfter, spelled, pieces⟩
  refine ⟨⟨_, _, ⟨before, whiteBefore, rfl⟩, ⟨after, whiteAfter, rfl⟩, spelled⟩, ?_, ?_⟩
  · intro c white beginning
    have isFirst := Utf8.head?_pieces_eq_some_iff.mpr beginning
    rw [pieces] at isFirst
    exact not_drops_of_mem_head?_stripped isFirst white
  · intro c white ending
    have isLast := Utf8.getLast?_pieces_eq_some_iff.mpr ending
    rw [pieces] at isLast
    exact not_drops_of_mem_getLast?_stripped isLast white

/-- Only trimming takes away just the white space at both ends. -/
theorem IsTrimmed.eq_trim {text trimmed : Bytes} (isTrimmed : IsTrimmed text trimmed) :
    trimmed = trim text := by
  rcases isTrimmed.between with
    ⟨_, _, ⟨before, whiteBefore, rfl⟩, ⟨after, whiteAfter, rfl⟩, spelled⟩
  have cut : Utf8.pieces text =
      before.map .scalar ++ Utf8.pieces trimmed ++ after.map .scalar := by
    rw [spelled, Utf8.pieces_append_encode, Utf8.pieces_encode_append]
  have left : stripped Utf8.Piece.isWhiteSpace (Utf8.pieces text) = Utf8.pieces trimmed := by
    rw [cut]
    apply stripped_append
    · exact List.forall_mem_map.mpr whiteBefore
    · exact List.forall_mem_map.mpr whiteAfter
    · intro piece isFirst white
      cases piece with
      | stray b => cases white
      | scalar c => exact isTrimmed.front c white (Utf8.head?_pieces_eq_some_iff.mp isFirst)
    · intro piece isLast white
      cases piece with
      | stray b => cases white
      | scalar c => exact isTrimmed.back c white (Utf8.getLast?_pieces_eq_some_iff.mp isLast)
  calc trimmed
      = Utf8.unpieces (Utf8.pieces trimmed) := (Utf8.unpieces_pieces trimmed).symm
    _ = trim text := by
        rw [← left]
        rfl

/-- White space that is put around a text is taken away again. -/
theorem Padded.trim_eq {text padded : Bytes} (isPadded : Padded text padded) :
    trim padded = trim text := by
  have inner := isTrimmed_trim text
  have outer : IsTrimmed padded (trim text) :=
    ⟨inner.between.trans isPadded, inner.front, inner.back⟩
  exact outer.eq_trim.symm

end Bytes
end PhpLint
