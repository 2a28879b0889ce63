import Mathlib.Algebra.BigOperators.Intervals
import PhpLint.Proofs.Check

namespace PhpLint
namespace Check

/-!
# Signatures of functions

A signature runs from the line that begins a function definition through the first line
with an opening brace, or through the last line of all. Signatures that end with the same
line overlap: the depth at a line is the balance of this line and, unless the signature
ends there, the depth at the next one. This recursion has one solution, which is the sum
of the balances through the end of the signature. A line is reported exactly if it begins
a function definition and its depth is not zero.
-/

/-- Opening minus closing parentheses of the line at an index. -/
def balanceAt (lines : List Bytes) (index : Nat) : Int :=
  parenthesisBalance (lines.getD index [])

/-- The line `last` is the first one from `first` on that has an opening brace, or the last line of
all if none has. -/
structure SignatureEnds (lines : List Bytes) (first last : Nat) : Prop where
  le : first ≤ last
  lt : last < lines.length
  before : ∀ index, first ≤ index → index < last → openBrace ∉ lines.getD index []
  here : openBrace ∈ lines.getD last [] ∨ last + 1 = lines.length

/-- The depths at all lines, each given by the depth at the next line. -/
structure IsDepth (lines : List Bytes) (depth : Nat → Int) : Prop where
  ends : ∀ index < lines.length, openBrace ∈ lines.getD index [] ∨ index + 1 = lines.length →
    depth index = balanceAt lines index
  goesOn : ∀ index, openBrace ∉ lines.getD index [] → index + 1 < lines.length →
    depth index = balanceAt lines index + depth (index + 1)

/-- The depth at a line, as the check finds it. -/
def depthAt (lines : List Bytes) (index : Nat) : Int :=
  signatureDepth (lines.drop index)

/-! ## Where signatures end -/

namespace SignatureEnds

variable {lines : List Bytes} {first last : Nat}

/-- A signature of which this is not the last line goes on with the next line. -/
theorem next (ends : SignatureEnds lines first last) (further : first < last) :
    SignatureEnds lines (first + 1) last where
  le := further
  lt := ends.lt
  before := fun index after => ends.before index (Nat.le_of_succ_le after)
  here := ends.here

theorem of_next (noBrace : openBrace ∉ lines.getD first [])
    (ends : SignatureEnds lines (first + 1) last) : SignatureEnds lines first last where
  le := Nat.le_of_succ_le ends.le
  lt := ends.lt
  before := by
    intro index after isBefore
    rcases Nat.eq_or_lt_of_le after with rfl | later
    · exact noBrace
    · exact ends.before index later isBefore
  here := ends.here

theorem not_lt {other : Nat} (ends : SignatureEnds lines first last)
    (endsThere : SignatureEnds lines first other) : ¬ last < other := by
  intro earlier
  have noBrace := endsThere.before last ends.le earlier
  have isLast := ends.here.resolve_left noBrace
  have bound := endsThere.lt
  omega

theorem unique {other : Nat} (ends : SignatureEnds lines first last)
    (endsThere : SignatureEnds lines first other) : last = other :=
  Nat.le_antisymm (Nat.not_lt.mp (endsThere.not_lt ends)) (Nat.not_lt.mp (ends.not_lt endsThere))

end SignatureEnds

theorem exists_signatureEnds {lines : List Bytes} {first : Nat} (inside : first < lines.length) :
    ∃ last, SignatureEnds lines first last := by
  -- the induction is on the number of lines that follow
  induction following : lines.length - (first + 1) generalizing first with
  | zero =>
    refine ⟨first, Nat.le_refl first, inside, ?_, Or.inr (by omega)⟩
    intro index after before
    omega
  | succ count inductionHypothesis =>
    by_cases brace : openBrace ∈ lines.getD first []
    · refine ⟨first, Nat.le_refl first, inside, ?_, Or.inl brace⟩
      intro index after before
      omega
    · have further : first + 1 < lines.length := by
        omega
      rcases inductionHypothesis further (by omega) with ⟨last, ends⟩
      exact ⟨last, ends.of_next brace⟩

/-! ## Depths -/

theorem drop_eq_getD_cons {lines : List Bytes} {index : Nat} (inside : index < lines.length) :
    lines.drop index = lines.getD index [] :: lines.drop (index + 1) := by
  rw [List.getD_eq_getElem?_getD, List.getElem?_eq_getElem inside, Option.getD_some]
  exact List.drop_eq_getElem_cons inside

theorem depthAt_isDepth (lines : List Bytes) : IsDepth lines (depthAt lines) where
  ends := by
    intro index inside ending
    rw [depthAt, drop_eq_getD_cons inside, signatureDepth, balanceAt]
    split
    · rfl
    · next noBrace =>
      have nothing : lines.drop (index + 1) = [] :=
        List.drop_eq_nil_of_le (Nat.le_of_eq (ending.resolve_left noBrace).symm)
      rw [nothing, signatureDepth, Int.add_zero]
  goesOn := by
    intro index noBrace further
    rw [depthAt, drop_eq_getD_cons (Nat.lt_of_succ_lt further), signatureDepth, if_neg noBrace,
      balanceAt, depthAt]

namespace IsDepth

variable {lines : List Bytes} {depth : Nat → Int} {first second last : Nat}

/-- The depth is the balance of all lines through the end of the signature. -/
theorem eq_sum (isDepth : IsDepth lines depth) (ends : SignatureEnds lines first last) :
    depth first = ∑ index ∈ Finset.Icc first last, balanceAt lines index := by
  -- the induction goes back from the last line of the signature
  induction further : last - first generalizing first with
  | zero =>
    have same : first = last := by
      have le := ends.le
      omega
    subst same
    rw [Finset.Icc_self, Finset.sum_singleton, isDepth.ends first ends.lt ends.here]
  | succ count inductionHypothesis =>
    have before : first < last := by
      omega
    have noBrace := ends.before first (Nat.le_refl first) before
    have goesOn := isDepth.goesOn first noBrace (Nat.lt_of_le_of_lt before ends.lt)
    have later := inductionHypothesis (ends.next before) (by omega)
    have nonempty : first < last + 1 := Nat.lt_succ_of_lt before
    rw [goesOn, later, ← Finset.Ico_add_one_right_eq_Icc, ← Finset.Ico_add_one_right_eq_Icc,
      Finset.sum_eq_sum_Ico_succ_bot nonempty]

/-- Where signatures end with the same line, the depths differ by the balance in between. -/
theorem sub_eq_sum (isDepth : IsDepth lines depth) (le : first ≤ second)
    (endsFirst : SignatureEnds lines first last) (endsSecond : SignatureEnds lines second last) :
    depth first - depth second = ∑ index ∈ Finset.Ico first second, balanceAt lines index := by
  have secondLe : second ≤ last + 1 := Nat.le_succ_of_le endsSecond.le
  rw [isDepth.eq_sum endsFirst, isDepth.eq_sum endsSecond, ← Finset.Ico_add_one_right_eq_Icc,
    ← Finset.Ico_add_one_right_eq_Icc, ← Finset.sum_Ico_consecutive _ le secondLe,
    Int.add_sub_cancel]

end IsDepth

/-! ## Reports -/

theorem opensUnmatched_iff {lines : List Bytes} {index : Nat} {line : Bytes} {rest : List Bytes}
    (dropped : lines.drop index = line :: rest) :
    opensUnmatched line rest = true ↔ isFunctionHeader line = true ∧ depthAt lines index ≠ 0 := by
  rw [opensUnmatched, Bool.and_eq_true, bne_iff_ne, depthAt, dropped]

/-- A line is reported if it begins a function definition and its depth is not zero. -/
theorem mem_parentheses_iff {lines : List Bytes} {finding : Finding} :
    finding ∈ parentheses lines ↔
      ∃ index line, lines[index]? = some line ∧ isFunctionHeader line = true ∧
        depthAt lines index ≠ 0 ∧ finding = parenthesisFinding (index + 1) := by
  rw [parentheses, mem_parenthesesFrom_iff]
  constructor
  · rintro ⟨index, line, rest, dropped, flagged, rfl⟩
    rcases (opensUnmatched_iff dropped).mp flagged with ⟨header, notZero⟩
    exact ⟨index, line, getElem?_of_drop dropped, header, notZero, by rw [Nat.add_comm]⟩
  · rintro ⟨index, line, found, header, notZero, rfl⟩
    rw [← List.head?_drop] at found
    rcases List.head?_eq_some_iff.mp found with ⟨rest, dropped⟩
    exact ⟨index, line, rest, dropped, (opensUnmatched_iff dropped).mpr ⟨header, notZero⟩,
      by rw [Nat.add_comm]⟩

/-- The findings are at increasing lines, and there is one for each line that begins a function
definition and whose signature has a balance other than zero. Every line has one end of a signature.
The depths that the check finds solve the recursion, whose solutions agree at all lines: they are
these balances, and they differ by what stands between lines with the same end. -/
theorem parentheses_report_exactly (lines : List Bytes) :
    ((parentheses lines).Pairwise fun finding later => finding.line < later.line) ∧
    (∀ finding, finding ∈ parentheses lines ↔
      ∃ first last line, lines[first]? = some line ∧ isFunctionHeader line = true ∧
        SignatureEnds lines first last ∧
        ∑ index ∈ Finset.Icc first last, balanceAt lines index ≠ 0 ∧
        finding = {
          line := first + 1
          rule := .unmatchedParentheses
          message := utf8 "Possible unmatched parentheses in function definition" }) ∧
    (∀ first < lines.length, ∃! last, SignatureEnds lines first last) ∧
    IsDepth lines (depthAt lines) ∧
    ∀ depth, IsDepth lines depth →
      (∀ index line, lines[index]? = some line →
        ((∃ finding ∈ parentheses lines, finding.line = index + 1) ↔
          isFunctionHeader line = true ∧ depth index ≠ 0)) ∧
      (∀ first last, SignatureEnds lines first last →
        depth first = ∑ index ∈ Finset.Icc first last, balanceAt lines index) ∧
      ∀ first second last, first ≤ second → SignatureEnds lines first last →
        SignatureEnds lines second last →
        depth first - depth second = ∑ index ∈ Finset.Ico first second, balanceAt lines index := by
  have isDepth := depthAt_isDepth lines
  refine ⟨?_, ?_, ?_, isDepth, ?_⟩
  · rw [parentheses, parenthesesFrom_eq_scan]
    exact scan_pairwise (fun _ _ => rfl) 1 lines
  · intro finding
    rw [mem_parentheses_iff]
    constructor
    · rintro ⟨first, line, found, header, notZero, rfl⟩
      rcases exists_signatureEnds (List.getElem?_eq_some_iff.mp found).1 with ⟨last, ends⟩
      exact ⟨first, last, line, found, header, ends, isDepth.eq_sum ends ▸ notZero, rfl⟩
    · rintro ⟨first, last, line, found, header, ends, notZero, rfl⟩
      exact ⟨first, line, found, header, (isDepth.eq_sum ends).symm ▸ notZero, rfl⟩
  · intro first inside
    rcases exists_signatureEnds inside with ⟨last, ends⟩
    exact ⟨last, ends, fun other endsThere => endsThere.unique ends⟩
  · intro depth isOtherDepth
    refine ⟨?_, fun first last ends => isOtherDepth.eq_sum ends,
      fun first second last le => isOtherDepth.sub_eq_sum le⟩
    intro index line found
    rcases exists_signatureEnds (List.getElem?_eq_some_iff.mp found).1 with ⟨last, ends⟩
    rw [isOtherDepth.eq_sum ends, ← isDepth.eq_sum ends]
    constructor
    · rintro ⟨finding, member, number⟩
      rcases mem_parentheses_iff.mp member with ⟨place, other, foundThere, header, notZero, rfl⟩
      cases number
      rw [found] at foundThere
      cases foundThere
      exact ⟨header, notZero⟩
    · rintro ⟨header, notZero⟩
      exact ⟨_, mem_parentheses_iff.mpr ⟨index, line, found, header, notZero, rfl⟩, rfl⟩

/-- Two signatures that run into the one of a third line and end with its brace, and a signature
that no brace ends. -/
def overlappingSignatures : List Bytes :=
  [utf8 "function first($a", utf8 "public function second(",
    utf8 "\tprivate function third()) \x7b", utf8 "\x7d", utf8 "function fourth("]

theorem overlappingSignatures_reported :
    SignatureEnds overlappingSignatures 0 2 ∧ SignatureEnds overlappingSignatures 1 2 ∧
    depthAt overlappingSignatures 0 - depthAt overlappingSignatures 1 = 1 ∧
    ((parentheses overlappingSignatures).map fun finding => finding.line) = [1, 3, 5] := by
  have endsFirst : SignatureEnds overlappingSignatures 0 2 :=
    ⟨by decide, by decide, by decide, by decide⟩
  have endsSecond : SignatureEnds overlappingSignatures 1 2 :=
    ⟨by decide, by decide, by decide, by decide⟩
  refine ⟨endsFirst, endsSecond, ?_, by decide⟩
  rcases parentheses_report_exactly overlappingSignatures with ⟨_, _, _, isDepth, ofDepth⟩
  exact (ofDepth _ isDepth).2.2 0 1 2 (by decide) endsFirst endsSecond

end Check
end PhpLint
