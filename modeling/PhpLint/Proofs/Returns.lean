import PhpLint.Proofs.Blank
import PhpLint.Proofs.Bytes
import PhpLint.Proofs.Check

namespace PhpLint
namespace Check

/-!
# Return statements without a semicolon

The check of semicolons makes more tests than it needs. A line that begins with `return`
is neither blank nor a comment, and one that ends with an opening brace or bracket holds
it. What remains is a condition on the trimmed line alone, and the lines that fulfil it
are reported.
-/

/-- A trimmed line is a return statement that has to be reported: either nothing but the word, or a
statement with a value that does not end with a semicolon and holds no mark of something that goes
on elsewhere. -/
def MissesSemicolon (trimmed : Bytes) : Prop :=
  trimmed = utf8 "return" ∨
    (utf8 "return " <+: trimmed ∧ ¬ utf8 ";" <:+ trimmed ∧
      ∀ mark ∈ ["\x7b", "\x7d", "//", "/*", "*/", "[", "]"], ¬ utf8 mark <:+: trimmed)

/-- Tests of a trimmed line of which each is either made or left out. -/
structure Tests where
  blank : Bool
  comment : Bool
  braceAtEnd : Bool
  bracketAtEnd : Bool

/-- Whether a trimmed line lacks a semicolon if only the chosen tests are made. -/
def Tests.flags (tests : Tests) (line : Bytes) : Bool :=
  !(tests.blank && line.isEmpty) && !(tests.comment && isComment line) &&
    (if line = utf8 "return" then
      true
    else
      (utf8 "return ").isPrefixOf line &&
        !((utf8 ";").isSuffixOf line || (tests.braceAtEnd && (utf8 "\x7b").isSuffixOf line) ||
          (tests.bracketAtEnd && (utf8 "[").isSuffixOf line))) &&
    !isExempt line

/-- The check makes all tests. -/
theorem lacksSemicolon_eq_flags (line : Bytes) :
    lacksSemicolon line = Tests.flags ⟨true, true, true, true⟩ line :=
  rfl

theorem isExempt_eq_false_iff {line : Bytes} :
    isExempt line = false ↔
      ∀ mark ∈ ["\x7b", "\x7d", "//", "/*", "*/", "[", "]"], ¬ utf8 mark <:+: line := by
  have same : exemptions = ["\x7b", "\x7d", "//", "/*", "*/", "[", "]"].map utf8 := rfl
  rw [isExempt, same, List.any_map, List.any_eq_false]
  apply forall₂_congr
  intro mark _
  rw [Function.comp_apply, Bytes.occurs_iff]

theorem isComment_of_return {line : Bytes} (begins : utf8 "return " <+: line) :
    isComment line = false := by
  rcases begins with ⟨rest, rfl⟩
  rfl

theorem not_isEmpty_of_return {line : Bytes} (begins : utf8 "return " <+: line) :
    line.isEmpty = false := by
  rcases begins with ⟨rest, rfl⟩
  rfl

theorem isSuffixOf_eq_false {ending line : Bytes} (different : ¬ ending <:+ line) :
    ending.isSuffixOf line = false :=
  Bool.eq_false_iff.mpr fun ends => different (List.isSuffixOf_iff_suffix.mp ends)

/-- Whatever tests are made, the same lines are flagged. -/
theorem Tests.flags_iff (tests : Tests) (line : Bytes) :
    tests.flags line = true ↔ MissesSemicolon line := by
  constructor
  · intro flagged
    simp only [flags, Bool.and_eq_true, Bool.not_eq_true'] at flagged
    rcases flagged with ⟨⟨_, isReturn⟩, notExempt⟩
    split at isReturn
    · next bare => exact Or.inl bare
    · simp only [Bool.and_eq_true, Bool.not_eq_true', Bool.or_eq_false_iff] at isReturn
      rcases isReturn with ⟨begins, ⟨noSemicolon, _⟩, _⟩
      refine Or.inr ⟨List.isPrefixOf_iff_prefix.mp begins, ?_, isExempt_eq_false_iff.mp notExempt⟩
      intro ends
      rw [List.isSuffixOf_iff_suffix.mpr ends] at noSemicolon
      cases noSemicolon
  · rintro (rfl | ⟨begins, noSemicolon, noMark⟩)
    · rcases tests with ⟨blank, comment, braceAtEnd, bracketAtEnd⟩
      cases blank <;> cases comment <;> rfl
    · have noBrace : (utf8 "\x7b").isSuffixOf line = false :=
        isSuffixOf_eq_false fun ends => noMark "\x7b" (by decide) ends.isInfix
      have noBracket : (utf8 "[").isSuffixOf line = false :=
        isSuffixOf_eq_false fun ends => noMark "[" (by decide) ends.isInfix
      simp only [flags, not_isEmpty_of_return begins, isComment_of_return begins,
        isExempt_eq_false_iff.mpr noMark, isSuffixOf_eq_false noSemicolon, noBrace, noBracket,
        List.isPrefixOf_iff_prefix.mpr begins, Bool.and_false, Bool.or_false, Bool.not_false,
        Bool.and_true, ite_self]

theorem lacksSemicolon_iff {line : Bytes} : lacksSemicolon line = true ↔ MissesSemicolon line := by
  rw [lacksSemicolon_eq_flags]
  exact Tests.flags_iff _ line

/-- The findings are at increasing lines, and there is one for each line that misses a semicolon
once the white space around it is taken away, which can be done in one way only. None of the tests
makes a difference that are either made or left out. -/
theorem semicolons_report_exactly (lines : List Bytes) :
    (∀ line, ∃! trimmed, Bytes.IsTrimmed line trimmed) ∧
    ((semicolons lines).Pairwise fun finding later => finding.line < later.line) ∧
    (∀ finding, finding ∈ semicolons lines ↔
      ∃ index line trimmed, lines[index]? = some line ∧ Bytes.IsTrimmed line trimmed ∧
        MissesSemicolon trimmed ∧
        finding = {
          line := index + 1
          rule := .missingSemicolon
          message := utf8 "Missing semicolon after return statement: " ++ trimmed }) ∧
    ∀ tests : Tests,
      scan (fun line _ => tests.flags (Bytes.trim line))
        (fun number line => semicolonFinding number (Bytes.trim line)) 1 lines =
          semicolons lines := by
  refine ⟨?_, ?_, ?_, ?_⟩
  · intro line
    exact ⟨Bytes.trim line, Bytes.isTrimmed_trim line, fun other isTrimmed => isTrimmed.eq_trim⟩
  · rw [semicolons, semicolonsFrom_eq_scan]
    exact scan_pairwise (fun _ _ => rfl) 1 lines
  · intro finding
    rw [semicolons, mem_semicolonsFrom_iff]
    constructor
    · rintro ⟨index, line, found, flagged, rfl⟩
      refine ⟨index, line, Bytes.trim line, found, Bytes.isTrimmed_trim line,
        lacksSemicolon_iff.mp flagged, ?_⟩
      rw [Nat.add_comm]
      rfl
    · rintro ⟨index, line, trimmed, found, isTrimmed, misses, rfl⟩
      rw [isTrimmed.eq_trim] at misses ⊢
      refine ⟨index, line, found, lacksSemicolon_iff.mpr misses, ?_⟩
      rw [Nat.add_comm]
      rfl
  · intro tests
    have same : (fun (line : Bytes) (_ : List Bytes) => tests.flags (Bytes.trim line)) =
        fun line _ => lacksSemicolon (Bytes.trim line) := by
      funext line _
      apply Bool.eq_iff_iff.mpr
      rw [tests.flags_iff, lacksSemicolon_iff]
    rw [same, semicolons, semicolonsFrom_eq_scan]

end Check
end PhpLint
