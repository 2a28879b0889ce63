import PhpLint.Text.Bytes

namespace PhpLint
namespace Bytes

/-!
# Cutting and joining byte strings

Pieces that do not hold the separator are found again after they have been put
together, with separators between them or after each of them. A text that begins
with one of several labels can be cut after its label, as long as no label is the
beginning of another one.
-/

/-! ## Pieces -/

theorem split_of_not_mem {separator : UInt8} {text : Bytes} (absent : separator ∉ text) :
    split separator text = [text] := by
  induction text with
  | nil => rfl
  | cons b rest inductionHypothesis =>
    have different : b ≠ separator := fun same => absent (same ▸ List.mem_cons_self)
    have later := inductionHypothesis fun member => absent (List.mem_cons_of_mem b member)
    simp only [split, if_neg different, later]

theorem split_ne_nil (separator : UInt8) (text : Bytes) : split separator text ≠ [] := by
  cases text with
  | nil => exact List.cons_ne_nil _ _
  | cons b rest =>
    rw [split]
    split
    · exact List.cons_ne_nil _ _
    · split <;> exact List.cons_ne_nil _ _

/-- A byte in front becomes part of the first piece. -/
theorem split_cons_of_ne {separator b : UInt8} {rest piece : Bytes} {others : List Bytes}
    (different : b ≠ separator) (pieces : split separator rest = piece :: others) :
    split separator (b :: rest) = (b :: piece) :: others := by
  rw [split, if_neg different, pieces]

/-- At a separator a text can be cut into two before it is cut into pieces. -/
theorem split_append_separator (separator : UInt8) (front rest : Bytes) :
    split separator (front ++ separator :: rest) =
      split separator front ++ split separator rest := by
  induction front with
  | nil => simp only [List.nil_append, split, if_true, List.singleton_append]
  | cons b front inductionHypothesis =>
    rw [List.cons_append, split, split, inductionHypothesis]
    split
    · rfl
    · cases pieces : split separator front with
      | nil => exact absurd pieces (split_ne_nil separator front)
      | cons piece others => rfl

theorem length_split (separator : UInt8) (text : Bytes) :
    (split separator text).length = text.count separator + 1 := by
  induction text with
  | nil => rfl
  | cons b rest inductionHypothesis =>
    rw [split, List.count_cons]
    split
    · next same => simp [same, inductionHypothesis]
    · next different =>
      cases pieces : split separator rest with
      | nil => exact absurd pieces (split_ne_nil separator rest)
      | cons piece others =>
        rw [pieces] at inductionHypothesis
        simpa [different] using inductionHypothesis

theorem split_append_cons {separator : UInt8} {piece : Bytes} (absent : separator ∉ piece)
    (rest : Bytes) :
    split separator (piece ++ separator :: rest) = piece :: split separator rest := by
  rw [split_append_separator, split_of_not_mem absent, List.singleton_append]

/-- Pieces without the separator can be told apart again after they have been joined. -/
theorem split_join {separator : UInt8} {pieces : List Bytes} (nonempty : pieces ≠ [])
    (absent : ∀ piece ∈ pieces, separator ∉ piece) :
    split separator (join [separator] pieces) = pieces := by
  induction pieces with
  | nil => exact absurd rfl nonempty
  | cons piece rest inductionHypothesis =>
    have here := absent piece List.mem_cons_self
    cases rest with
    | nil => exact split_of_not_mem here
    | cons next others =>
      have later := inductionHypothesis (by simp)
        fun other member => absent other (List.mem_cons_of_mem piece member)
      simp only [join, List.append_assoc, List.singleton_append]
      rw [split_append_cons here, later]

/-- Joining the pieces of a text gives the text back. -/
theorem join_split (separator : UInt8) (text : Bytes) :
    join [separator] (split separator text) = text := by
  induction text with
  | nil => rfl
  | cons b rest inductionHypothesis =>
    cases pieces : split separator rest with
    | nil => exact absurd pieces (split_ne_nil separator rest)
    | cons piece others =>
      rw [pieces] at inductionHypothesis
      by_cases same : b = separator
      · rw [split, if_pos same, pieces, join, inductionHypothesis, same, List.nil_append,
          List.singleton_append]
      · rw [split_cons_of_ne same pieces, ← inductionHypothesis]
        cases others with
        | nil => rfl
        | cons next more => rfl

/-- Pieces that are all followed by the separator leave an empty piece at the end. -/
theorem split_flatMap_concat {separator : UInt8} {pieces : List Bytes}
    (absent : ∀ piece ∈ pieces, separator ∉ piece) :
    split separator (pieces.flatMap fun piece => piece ++ [separator]) = pieces ++ [[]] := by
  induction pieces with
  | nil => rfl
  | cons piece rest inductionHypothesis =>
    have later := inductionHypothesis
      fun other member => absent other (List.mem_cons_of_mem piece member)
    rw [List.flatMap_cons, List.append_assoc, List.singleton_append,
      split_append_cons (absent piece List.mem_cons_self), later, List.cons_append]

theorem not_mem_of_mem_split {separator : UInt8} {text piece : Bytes}
    (member : piece ∈ split separator text) : separator ∉ piece := by
  induction text generalizing piece with
  | nil =>
    rw [List.mem_singleton.mp member]
    exact List.not_mem_nil
  | cons b rest inductionHypothesis =>
    simp only [split] at member
    split at member
    · rcases List.mem_cons.mp member with empty | later
      · rw [empty]
        exact List.not_mem_nil
      · exact inductionHypothesis later
    · next different =>
      cases pieces : split separator rest with
      | nil =>
        rw [pieces] at member
        rw [List.mem_singleton.mp member, List.mem_singleton]
        exact Ne.symm different
      | cons first others =>
        rw [pieces] at member inductionHypothesis
        rcases List.mem_cons.mp member with here | later
        · rw [here, List.mem_cons, not_or]
          exact ⟨Ne.symm different, inductionHypothesis List.mem_cons_self⟩
        · exact inductionHypothesis (List.mem_cons_of_mem first later)

theorem mem_of_mem_split {separator b : UInt8} {text piece : Bytes}
    (member : piece ∈ split separator text) (inPiece : b ∈ piece) : b ∈ text := by
  induction text generalizing piece with
  | nil =>
    rw [List.mem_singleton.mp member] at inPiece
    exact absurd inPiece List.not_mem_nil
  | cons first rest inductionHypothesis =>
    simp only [split] at member
    split at member
    · rcases List.mem_cons.mp member with empty | later
      · rw [empty] at inPiece
        exact absurd inPiece List.not_mem_nil
      · exact List.mem_cons_of_mem first (inductionHypothesis later inPiece)
    · cases pieces : split separator rest with
      | nil =>
        rw [pieces] at member
        rw [List.mem_singleton.mp member, List.mem_singleton] at inPiece
        exact inPiece ▸ List.mem_cons_self
      | cons next others =>
        rw [pieces] at member inductionHypothesis
        rcases List.mem_cons.mp member with here | later
        · rw [here] at inPiece
          rcases List.mem_cons.mp inPiece with same | inNext
          · exact same ▸ List.mem_cons_self
          · exact List.mem_cons_of_mem first (inductionHypothesis List.mem_cons_self inNext)
        · exact List.mem_cons_of_mem first
            (inductionHypothesis (List.mem_cons_of_mem next later) inPiece)

theorem mem_join {separator : Bytes} {b : UInt8} {texts : List Bytes}
    (member : b ∈ join separator texts) : b ∈ separator ∨ ∃ text ∈ texts, b ∈ text := by
  induction texts with
  | nil => exact absurd member List.not_mem_nil
  | cons text rest inductionHypothesis =>
    cases rest with
    | nil => exact Or.inr ⟨text, List.mem_cons_self, member⟩
    | cons next others =>
      simp only [join, List.mem_append] at member
      rcases member with (here | between) | later
      · exact Or.inr ⟨text, List.mem_cons_self, here⟩
      · exact Or.inl between
      · rcases inductionHypothesis later with between | ⟨other, listed, inside⟩
        · exact Or.inl between
        · exact Or.inr ⟨other, List.mem_cons_of_mem text listed, inside⟩

/-! ## Beginnings -/

theorem occurs_iff {needle text : Bytes} : occurs needle text = true ↔ needle <:+: text := by
  induction text with
  | nil => simp [occurs]
  | cons b rest inductionHypothesis =>
    rw [occurs, Bool.or_eq_true, List.isPrefixOf_iff_prefix, inductionHypothesis,
      List.infix_cons_iff]

/-- What a text and another one behind it begin with is the beginning of the first text, or it
reaches into the second one. -/
theorem prefix_append_cases {beginning first second : Bytes}
    (isPrefix : beginning <+: first ++ second) :
    beginning <+: first ∨
      ∃ b more, beginning = first ++ b :: more ∧ b :: more <+: second := by
  rcases List.prefix_or_prefix_of_prefix isPrefix (List.prefix_append first second) with
    inside | ⟨reached, rfl⟩
  · exact Or.inl inside
  · cases reached with
    | nil =>
      rw [List.append_nil]
      exact Or.inl (List.prefix_refl first)
    | cons b more => exact Or.inr ⟨b, more, rfl, (List.prefix_append_right_inj first).mp isPrefix⟩

theorem after?_append (beginning rest : Bytes) :
    after? beginning (beginning ++ rest) = some rest := by
  rw [after?, if_pos (List.isPrefixOf_iff_prefix.mpr (List.prefix_append beginning rest)),
    List.drop_left]

theorem after?_eq_none {beginning text : Bytes} (different : ¬ beginning <+: text) :
    after? beginning text = none := by
  rw [after?, if_neg fun isPrefix => different (List.isPrefixOf_iff_prefix.mp isPrefix)]

/-- The label that a text begins with, and the rest of the text. -/
def label? {α : Type} (spell : α → Bytes) (labels : List α) (text : Bytes) : Option (α × Bytes) :=
  labels.findSome? fun label => (after? (spell label) text).map fun rest => (label, rest)

/-- If no label is the beginning of another one, the first label that fits is the only one. -/
theorem label?_append {α : Type} {spell : α → Bytes} {labels : List α}
    (apart : ∀ label other, spell label <+: spell other → label = other) {label : α}
    (listed : label ∈ labels) (rest : Bytes) :
    label? spell labels (spell label ++ rest) = some (label, rest) := by
  have only : ∀ other, other ≠ label → after? (spell other) (spell label ++ rest) = none := by
    intro other different
    apply after?_eq_none
    intro beginning
    rcases List.prefix_or_prefix_of_prefix beginning (List.prefix_append (spell label) rest)
      with inside | inside
    · exact different (apart other label inside)
    · exact different (apart label other inside).symm
  induction labels with
  | nil => exact absurd listed List.not_mem_nil
  | cons first others inductionHypothesis =>
    rw [label?, List.findSome?_cons]
    by_cases same : first = label
    · rw [same, after?_append]
      rfl
    · rw [only first same]
      rcases List.mem_cons.mp listed with here | later
      · exact absurd here.symm same
      · exact inductionHypothesis later

end Bytes
end PhpLint
