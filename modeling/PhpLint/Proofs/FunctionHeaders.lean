import PhpLint.Proofs.Padding
import PhpLint.Proofs.Separators

namespace PhpLint

/-!
# Function headers

A line begins a function definition exactly if it has the form of a header: indentation, at most
one visibility, indentation, the word `function`, and any bytes after it. Indentation is made of
encoded characters, so a byte that is part of no encoding ends it. Skipping as much indentation
as there is misses no header, because no word of a header begins with a character that indents.
-/

namespace Utf8

/-- The byte between two texts is part of no encoding that stands there. -/
def IsStray (before : Bytes) (b : UInt8) (after : Bytes) : Prop :=
  ∀ c start rest, String.utf8EncodeChar c = start ++ b :: rest → start <:+ before →
    ¬ rest <+: after

/-- Every byte of encoded characters is part of an encoding. -/
theorem not_isStray_of_encode {characters : List Char} {before after : Bytes} {b : UInt8}
    (spelled : encode characters = before ++ b :: after) : ¬ IsStray before b after := by
  induction characters generalizing before with
  | nil => exact absurd spelled.symm (List.append_ne_nil_of_right_ne_nil _ (List.cons_ne_nil _ _))
  | cons c rest inductionHypothesis =>
    intro stray
    rw [encode, List.flatMap_cons, ← encode] at spelled
    rcases List.append_eq_append_iff.mp spelled with ⟨more, rfl, later⟩ | ⟨more, first, later⟩
    · apply inductionHypothesis later
      intro d start tail encoded ends
      exact stray d start tail encoded (ends.trans (List.suffix_append _ more))
    · cases more with
      | nil =>
        have here : encode rest = [] ++ b :: after := later.symm
        apply inductionHypothesis here
        intro d start tail encoded ends
        rw [List.suffix_nil.mp ends] at encoded
        exact stray d [] tail encoded List.nil_suffix
      | cons d more =>
        rw [List.cons_append, List.cons.injEq] at later
        rcases later with ⟨rfl, rfl⟩
        exact stray c before more first List.suffix_rfl (List.prefix_append more _)

/-- Behind an ASCII character, a byte that only continues encodings is stray. -/
theorem isStray_of_isContinuation {before : Bytes} {b : UInt8} (continues : IsContinuation b)
    (low : ∀ d ∈ before.getLast?, d.toNat < 0x80) (after : Bytes) : IsStray before b after := by
  intro c start rest encoded ends _
  rcases utf8EncodeChar_continues c with ⟨first, others, spelled, begins, _⟩
  rcases List.eq_nil_or_concat start with rfl | ⟨front, d, rfl⟩
  · rw [spelled, List.nil_append, List.cons.injEq] at encoded
    exact begins (encoded.1 ▸ continues)
  · -- the character before the byte would have an encoding of more than one byte
    rw [List.concat_eq_append] at encoded ends
    have isLow : d.toNat < 0x80 := by
      rcases ends with ⟨beginning, rfl⟩
      rw [← List.append_assoc] at low
      exact low d List.getLast?_concat
    have listed : d ∈ String.utf8EncodeChar c := by
      rw [encoded, List.append_assoc]
      exact List.mem_append_right front List.mem_cons_self
    have code := (forall_mem_utf8EncodeChar c d listed).resolve_left (Nat.not_le.mpr isLow)
    have small : c.val.toNat ≤ 127 := by
      have isSmall : c.toNat < 0x80 := code ▸ isLow
      exact Nat.lt_succ_iff.mp isSmall
    have length := congrArg List.length encoded
    rw [String.utf8EncodeChar, if_pos small, List.length_append, List.length_append] at length
    simp only [List.length_cons, List.length_nil] at length
    omega

end Utf8

namespace Check

/-! ## The grammar -/

/-- The characters that a function header may be indented with. -/
def Indents (c : Char) : Prop :=
  (0x09 ≤ c.toNat ∧ c.toNat ≤ 0x0D) ∨ (0x1C ≤ c.toNat ∧ c.toNat ≤ 0x1F) ∨ c.toNat = 0x20 ∨
    c.toNat = 0x85 ∨ Unicode.HasCategory c 'Z'

/-- Encoded characters that indent. -/
def IsIndentation (text : Bytes) : Prop :=
  ∃ characters : List Char, (∀ c ∈ characters, Indents c) ∧ text = Utf8.encode characters

/-- The form of a line that begins a function definition. -/
def IsHeader (line : Bytes) : Prop :=
  ∃ before visibility after rest, IsIndentation before ∧
    visibility ∈ [[], utf8 "public", utf8 "private", utf8 "protected"] ∧ IsIndentation after ∧
    line = before ++ visibility ++ after ++ utf8 "function" ++ rest

theorem indents_iff {c : Char} : Indents c ↔ isIndent c = true := by
  rw [Indents, ← Unicode.isSeparator_iff]
  simp only [isIndent, isSeparator, Bool.or_eq_true, Bool.and_eq_true, decide_eq_true_eq,
    beq_iff_eq]
  omega

/-! ## One step -/

theorem exists_eq_append_dropIndent (text : Bytes) :
    ∃ before, IsIndentation before ∧ text = before ++ dropIndent text := by
  have indents : ∀ piece ∈ (Utf8.pieces text).takeWhile Utf8.Piece.isIndent,
      piece.isIndent = true :=
    fun piece member => List.mem_takeWhile_imp member
  rcases Utf8.exists_map_scalar (fun _ => rfl) indents with ⟨characters, indent, taken⟩
  refine ⟨_, ⟨characters, fun c member => indents_iff.mpr (indent c member), rfl⟩, ?_⟩
  rw [← Utf8.unpieces_map_scalar, ← taken, dropIndent, ← Utf8.unpieces_append,
    List.takeWhile_append_dropWhile, Utf8.unpieces_pieces]

theorem dropIndent_append_of_isIndentation {before : Bytes} (indentation : IsIndentation before)
    (text : Bytes) : dropIndent (before ++ text) = dropIndent text := by
  rcases indentation with ⟨characters, indents, rfl⟩
  exact dropIndent_encode_append (fun c member => indents_iff.mp (indents c member)) text

theorem dropIndent_utf8EncodeChar_append {c : Char} (visible : isIndent c = false) (rest : Bytes) :
    dropIndent (String.utf8EncodeChar c ++ rest) = String.utf8EncodeChar c ++ rest := by
  have kept : ¬ (Utf8.Piece.scalar c).isIndent = true := Bool.eq_false_iff.mp visible
  rw [dropIndent, Utf8.pieces_utf8EncodeChar_append, List.dropWhile_cons_of_neg kept,
    ← Utf8.pieces_utf8EncodeChar_append, Utf8.unpieces_pieces]

theorem exists_eq_append_dropVisibility (text : Bytes) :
    ∃ visibility ∈ [] :: visibilities, text = visibility ++ dropVisibility text := by
  cases found : visibilities.findSome? fun word => Bytes.after? word text with
  | none =>
    refine ⟨[], List.mem_cons_self, ?_⟩
    rw [dropVisibility, found]
    rfl
  | some rest =>
    rcases List.exists_of_findSome?_eq_some found with ⟨word, listed, cut⟩
    refine ⟨word, List.mem_cons_of_mem _ listed, ?_⟩
    rw [dropVisibility, found, Option.getD_some]
    by_cases begins : word <+: text
    · rcases begins with ⟨later, rfl⟩
      rw [Bytes.after?_append] at cut
      rw [Option.some.inj cut]
    · rw [Bytes.after?_eq_none begins] at cut
      cases cut

/-- The words of a header begin with letters, which do not indent, and none of them is the
beginning of another one. -/
theorem dropVisibility_append {visibility : Bytes} (listed : visibility ∈ visibilities)
    (rest : Bytes) :
    dropVisibility (dropIndent (visibility ++ rest)) = rest := by
  have letter := dropIndent_utf8EncodeChar_append (show isIndent 'p' = false by decide)
  simp only [visibilities, List.mem_cons, List.not_mem_nil, or_false] at listed
  rcases listed with rfl | rfl | rfl
  · exact congrArg dropVisibility (letter (utf8 "ublic" ++ rest))
  · exact congrArg dropVisibility (letter (utf8 "rivate" ++ rest))
  · exact congrArg dropVisibility (letter (utf8 "rotected" ++ rest))

/-- Without a visibility the word `function` is left. -/
theorem dropVisibility_function (rest : Bytes) :
    dropVisibility (dropIndent (utf8 "function" ++ rest)) = utf8 "function" ++ rest := by
  have letter := dropIndent_utf8EncodeChar_append (show isIndent 'f' = false by decide)
  exact congrArg dropVisibility (letter (utf8 "unction" ++ rest))

theorem dropIndent_function (rest : Bytes) :
    dropIndent (utf8 "function" ++ rest) = utf8 "function" ++ rest := by
  have letter := dropIndent_utf8EncodeChar_append (show isIndent 'f' = false by decide)
  exact letter (utf8 "unction" ++ rest)

/-! ## Headers -/

theorem isFunctionHeader_iff (line : Bytes) : isFunctionHeader line = true ↔ IsHeader line := by
  rw [isFunctionHeader, List.isPrefixOf_iff_prefix]
  constructor
  · rintro ⟨rest, found⟩
    rcases exists_eq_append_dropIndent line with ⟨before, isBefore, cutBefore⟩
    rcases exists_eq_append_dropVisibility (dropIndent line) with
      ⟨visibility, listed, cutVisibility⟩
    rcases exists_eq_append_dropIndent (dropVisibility (dropIndent line)) with
      ⟨after, isAfter, cutAfter⟩
    refine ⟨before, visibility, after, rest, isBefore, listed, isAfter, ?_⟩
    calc line
        = before ++ dropIndent line := cutBefore
      _ = before ++ (visibility ++ dropVisibility (dropIndent line)) := by rw [← cutVisibility]
      _ = before ++ (visibility ++ (after ++ (utf8 "function" ++ rest))) := by
          rw [found, ← cutAfter]
      _ = before ++ visibility ++ after ++ utf8 "function" ++ rest := by
          simp only [List.append_assoc]
  · rintro ⟨before, visibility, after, rest, isBefore, listed, isAfter, rfl⟩
    simp only [List.append_assoc]
    rw [dropIndent_append_of_isIndentation isBefore]
    refine ⟨rest, ?_⟩
    rcases List.mem_cons.mp listed with rfl | listed
    · rw [List.nil_append, dropIndent_append_of_isIndentation isAfter, dropVisibility_function,
        dropIndent_function]
    · rw [dropVisibility_append listed, dropIndent_append_of_isIndentation isAfter,
        dropIndent_function]

/-- The characters of a header up to the word `function`. -/
def IsHeading (characters : List Char) : Prop :=
  ∃ before visibility after, (∀ c ∈ before, Indents c) ∧
    visibility ∈ ["", "public", "private", "protected"] ∧ (∀ c ∈ after, Indents c) ∧
    characters = before ++ (visibility.toList ++ (after ++ "function".toList))

theorem isHeader_iff_isHeading {line : Bytes} :
    IsHeader line ↔ ∃ characters, IsHeading characters ∧ Utf8.encode characters <+: line := by
  constructor
  · rintro ⟨_, _, _, rest, ⟨before, isBefore, rfl⟩, listed, ⟨after, isAfter, rfl⟩, rfl⟩
    rcases List.mem_map.mp (show _ ∈ ["", "public", "private", "protected"].map utf8 from listed)
      with ⟨visibility, isVisibility, rfl⟩
    refine ⟨_, ⟨before, visibility, after, isBefore, isVisibility, isAfter, rfl⟩, rest, ?_⟩
    simp only [utf8, Utf8.encode, List.flatMap_append, List.append_assoc]
  · rintro ⟨_, ⟨before, visibility, after, isBefore, isVisibility, isAfter, rfl⟩, rest, rfl⟩
    have listed : utf8 visibility ∈ ["", "public", "private", "protected"].map utf8 :=
      List.mem_map_of_mem isVisibility
    refine ⟨_, utf8 visibility, _, rest, ⟨before, isBefore, rfl⟩, listed, ⟨after, isAfter, rfl⟩, ?_⟩
    simp only [utf8, Utf8.encode, List.flatMap_append, List.append_assoc]

theorem IsHeader.append {line : Bytes} (header : IsHeader line) (more : Bytes) :
    IsHeader (line ++ more) := by
  rcases header with ⟨before, visibility, after, rest, isBefore, listed, isAfter, rfl⟩
  exact ⟨before, visibility, after, rest ++ more, isBefore, listed, isAfter, by
    simp only [List.append_assoc]⟩

/-- A stray byte is not part of a header, so the header is complete before it. -/
theorem isHeader_append_stray_iff {front rest : Bytes} {b : UInt8}
    (stray : Utf8.IsStray front b rest) : IsHeader (front ++ b :: rest) ↔ IsHeader front := by
  constructor
  · intro header
    rcases isHeader_iff_isHeading.mp header with ⟨characters, heading, begins⟩
    rcases Bytes.prefix_append_cases begins with inside | ⟨d, more, reaches, reached⟩
    · exact isHeader_iff_isHeading.mpr ⟨characters, heading, inside⟩
    · rcases List.cons_prefix_cons.mp reached with ⟨rfl, within⟩
      refine absurd ?_ (Utf8.not_isStray_of_encode reaches)
      intro c start tail encoded ends covered
      exact stray c start tail encoded ends (covered.trans within)
  · exact fun header => header.append _

end Check
end PhpLint
