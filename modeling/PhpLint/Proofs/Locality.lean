import PhpLint.Proofs.Signatures
import PhpLint.Proofs.WellFormed

namespace PhpLint

/-!
# Texts put together

What is found in a text that consists of two texts, with a line feed between them, is
found in one of them or in the other, where the lines of the second text are further
down. The exceptions are those that the checks intend. Braces are counted in the whole
text. A signature of the first text that has no brace there goes on into the second text,
so its depth is a sum of both. No other finding depends on what stands behind a text, and
none at all on what stands before it.
-/

/-- The findings under one rule, in their order. -/
def FileResult.under (result : FileResult) (rule : Rule) : List Finding :=
  result.findings.filter fun finding => finding.rule = rule

/-- The finding at a line that is further down by a number of lines. -/
def Finding.below (count : Nat) (finding : Finding) : Finding :=
  { finding with line := finding.line + count }

namespace Check

/-! ## Findings by rule -/

theorem filter_rule {findings : List Finding} {rule : Rule}
    (each : ∀ finding ∈ findings, finding.rule = rule) (other : Rule) :
    findings.filter (fun finding => finding.rule = other) =
      if rule = other then findings else [] := by
  split
  · next same =>
    apply List.filter_eq_self.mpr
    intro finding member
    exact decide_eq_true ((each finding member).trans same)
  · next different =>
    apply List.filter_eq_nil_iff.mpr
    intro finding member
    rw [each finding member, decide_eq_true_eq]
    exact different

/-- What the check that a rule belongs to finds in a text. -/
def findingsBy (text : Bytes) : Rule → List Finding
  | .braceMismatch => braces text
  | .unmatchedParentheses => parentheses (lines text)
  | .missingSemicolon => semicolons (lines text)
  | .readError => []

/-- Each check has the findings under its rule to itself. -/
theorem content_under (file text : Bytes) (rule : Rule) :
    (content file text).under rule = inFile file (findingsBy text rule) := by
  have arranged := content_arranged file text
  rw [FileResult.under, content_findings, List.filter_append, List.filter_append,
    filter_rule arranged.braces_rule, filter_rule arranged.parentheses_rule,
    filter_rule arranged.semicolons_rule]
  cases rule <;> simp [findingsBy, inFile]

theorem inFile_append (file : Bytes) (first second : List Finding) :
    inFile file (first ++ second) = inFile file first ++ inFile file second :=
  List.map_append

theorem inFile_map_below (file : Bytes) (count : Nat) (findings : List Finding) :
    inFile file (findings.map (Finding.below count)) =
      (inFile file findings).map (Finding.below count) := by
  simp only [inFile, List.map_map]
  rfl

theorem filter_line_inFile (file : Bytes) (keeps : Nat → Bool) (findings : List Finding) :
    (inFile file findings).filter (fun finding => keeps finding.line) =
      inFile file (findings.filter fun finding => keeps finding.line) :=
  List.filter_map

/-! ## Scanning further down -/

/-- Lines that stand further down are reported further down. -/
theorem scan_add {flags : Bytes → List Bytes → Bool} {report : Nat → Bytes → Finding} {count : Nat}
    (moves : ∀ number line, report (number + count) line = (report number line).below count)
    (number : Nat) (lines : List Bytes) :
    scan flags report (number + count) lines =
      (scan flags report number lines).map (Finding.below count) := by
  induction lines generalizing number with
  | nil => rfl
  | cons line rest inductionHypothesis =>
    rw [scan, scan, Nat.add_right_comm, inductionHypothesis (number + 1)]
    split
    · rw [List.map_cons, moves]
    · rfl

theorem semicolons_append (front back : List Bytes) :
    semicolons (front ++ back) =
      semicolons front ++ (semicolons back).map (Finding.below front.length) := by
  simp only [semicolons, semicolonsFrom_eq_scan]
  rw [scan_append, scan_add]
  exact fun _ _ => rfl

/-- The signatures of the first lines are followed into the other lines. -/
theorem parentheses_append (front back : List Bytes) :
    parentheses (front ++ back) =
      scan (fun line rest => opensUnmatched line (rest ++ back))
          (fun place _ => parenthesisFinding place) 1 front ++
        (parentheses back).map (Finding.below front.length) := by
  simp only [parentheses, parenthesesFrom_eq_scan]
  rw [scan_append, scan_add]
  exact fun _ _ => rfl

theorem line_le_of_mem_scan {flags : Bytes → List Bytes → Bool} {lines : List Bytes}
    {finding : Finding}
    (member : finding ∈ scan flags (fun place _ => parenthesisFinding place) 1 lines) :
    finding.line ≤ lines.length := by
  have bounds := scan_bounds (fun _ _ => rfl) member
  omega

theorem lt_line_of_mem_below {count : Nat} {lines : List Bytes} {finding : Finding}
    (member : finding ∈ (parentheses lines).map (Finding.below count)) : count < finding.line := by
  rcases List.mem_map.mp member with ⟨_, reported, rfl⟩
  rcases mem_parentheses_iff.mp reported with ⟨index, _, _, _, _, rfl⟩
  simp only [Finding.below, parenthesisFinding]
  omega

/-- The findings at the first lines are those of the scan that sees the other lines as well. -/
theorem filter_parentheses_front (front back : List Bytes) :
    ((parentheses (front ++ back)).filter fun finding => finding.line ≤ front.length) =
      scan (fun line rest => opensUnmatched line (rest ++ back))
        (fun place _ => parenthesisFinding place) 1 front := by
  rw [parentheses_append, List.filter_append, List.filter_eq_self.mpr, List.filter_eq_nil_iff.mpr,
    List.append_nil]
  · intro finding member
    simpa using lt_line_of_mem_below member
  · intro finding member
    simpa using line_le_of_mem_scan member

/-- The findings behind the first lines are those of the other lines. -/
theorem filter_parentheses_back (front back : List Bytes) :
    ((parentheses (front ++ back)).filter fun finding => front.length < finding.line) =
      (parentheses back).map (Finding.below front.length) := by
  rw [parentheses_append, List.filter_append, List.filter_eq_nil_iff.mpr, List.filter_eq_self.mpr,
    List.nil_append]
  · intro finding member
    simpa using lt_line_of_mem_below member
  · intro finding member
    simpa using line_le_of_mem_scan member

/-! ## Signatures with and without a brace -/

/-- A brace ends a signature, whatever follows. -/
theorem signatureDepth_append_of_brace {front : List Bytes}
    (brace : ∃ line ∈ front, openBrace ∈ line) (back : List Bytes) :
    signatureDepth (front ++ back) = signatureDepth front := by
  induction front with
  | nil =>
    rcases brace with ⟨_, impossible, _⟩
    exact absurd impossible List.not_mem_nil
  | cons line rest inductionHypothesis =>
    rw [List.cons_append, signatureDepth, signatureDepth]
    split
    · rfl
    · next noBrace =>
      rw [inductionHypothesis]
      rcases brace with ⟨other, listed, inside⟩
      rcases List.mem_cons.mp listed with rfl | later
      · exact absurd inside noBrace
      · exact ⟨other, later, inside⟩

theorem signatureDepth_append_of_no_brace {front : List Bytes}
    (noBrace : ∀ line ∈ front, openBrace ∉ line) (back : List Bytes) :
    signatureDepth (front ++ back) = signatureDepth front + signatureDepth back := by
  induction front with
  | nil => rw [List.nil_append, signatureDepth, Int.zero_add]
  | cons line rest inductionHypothesis =>
    have here := noBrace line List.mem_cons_self
    rw [List.cons_append, signatureDepth, signatureDepth, if_neg here, if_neg here,
      inductionHypothesis fun other later => noBrace other (List.mem_cons_of_mem line later),
      Int.add_assoc]

/-- Every line that begins a function definition has a line with an opening brace at or after it. -/
def SignaturesClose (lines : List Bytes) : Prop :=
  ∀ index line, lines[index]? = some line → isFunctionHeader line = true →
    ∃ other ∈ lines.drop index, openBrace ∈ other

theorem opensUnmatched_append_of_closes {line : Bytes} {rest : List Bytes}
    (closes : isFunctionHeader line = true → ∃ other ∈ line :: rest, openBrace ∈ other)
    (back : List Bytes) : opensUnmatched line (rest ++ back) = opensUnmatched line rest := by
  rw [opensUnmatched, opensUnmatched]
  cases header : isFunctionHeader line with
  | false => rfl
  | true => rw [← List.cons_append, signatureDepth_append_of_brace (closes header)]

/-- The signatures of lines that all have their braces there do not depend on what follows. -/
theorem scan_opensUnmatched_append {front : List Bytes} (close : SignaturesClose front)
    (back : List Bytes) :
    scan (fun line rest => opensUnmatched line (rest ++ back))
      (fun place _ => parenthesisFinding place) 1 front = parentheses front := by
  rw [parentheses, parenthesesFrom_eq_scan]
  apply scan_congr
  intro index line rest dropped
  apply opensUnmatched_append_of_closes
  intro header
  rw [← dropped]
  exact close index line (getElem?_of_drop dropped) header

/-- The depth at one of the first lines, as it is found when other lines follow. -/
theorem depthAt_append_ne_zero_iff {front back : List Bytes} {index : Nat}
    (inside : index < front.length) :
    depthAt (front ++ back) index ≠ 0 ↔
      ((∃ other ∈ front.drop index, openBrace ∈ other) ∧ depthAt front index ≠ 0) ∨
      ((∀ other ∈ front.drop index, openBrace ∉ other) ∧
        depthAt front index + signatureDepth back ≠ 0) := by
  rw [depthAt, depthAt, List.drop_append_of_le_length (Nat.le_of_lt inside)]
  by_cases brace : ∃ other ∈ front.drop index, openBrace ∈ other
  · rw [signatureDepth_append_of_brace brace]
    constructor
    · exact fun notZero => Or.inl ⟨brace, notZero⟩
    · rintro (⟨_, notZero⟩ | ⟨noBrace, _⟩)
      · exact notZero
      · rcases brace with ⟨other, listed, found⟩
        exact absurd found (noBrace other listed)
  · have noBrace : ∀ other ∈ front.drop index, openBrace ∉ other :=
      fun other listed found => brace ⟨other, listed, found⟩
    rw [signatureDepth_append_of_no_brace noBrace]
    constructor
    · exact fun notZero => Or.inr ⟨noBrace, notZero⟩
    · rintro (⟨found, _⟩ | ⟨_, notZero⟩)
      · exact absurd found brace
      · exact notZero

/-! ## Texts -/

theorem lines_append (front back : Bytes) :
    lines (front ++ lineFeed :: back) = lines front ++ lines back :=
  Bytes.split_append_separator lineFeed front back

theorem count_append_lineFeed {b : UInt8} (other : lineFeed ≠ b) (front back : Bytes) :
    (front ++ lineFeed :: back).count b = front.count b + back.count b := by
  rw [List.count_append, List.count_cons_of_ne other]

theorem mem_under_parentheses_iff {file text : Bytes} {index : Nat} {line : Bytes}
    (found : (lines text)[index]? = some line) :
    (∃ finding ∈ (content file text).under .unmatchedParentheses, finding.line = index + 1) ↔
      isFunctionHeader line = true ∧ depthAt (lines text) index ≠ 0 := by
  simp only [content_under, findingsBy]
  constructor
  · rintro ⟨_, member, number⟩
    rcases List.mem_map.mp member with ⟨finding, reported, rfl⟩
    rcases mem_parentheses_iff.mp reported with ⟨place, other, foundThere, header, notZero, rfl⟩
    cases number
    rw [found] at foundThere
    cases foundThere
    exact ⟨header, notZero⟩
  · rintro ⟨header, notZero⟩
    have reported := mem_parentheses_iff.mpr ⟨index, line, found, header, notZero, rfl⟩
    exact ⟨_, List.mem_map_of_mem reported, rfl⟩

/-- The findings of two texts with a line feed between them. Those about semicolons are the findings
of the first text and then those of the second one, further down by the lines of the first. Those
about parentheses behind the first text are the findings of the second one, and those in the first
text are its findings if all its signatures have a brace there. Where this is not so, the
parentheses of the second text up to its first brace count as well. Braces are counted in both. -/
theorem findings_are_local (file front back : Bytes) :
    let count := (lines front).length
    let whole := content file (front ++ lineFeed :: back)
    let first := content file front
    let second := content file back
    let opening := front.count openBrace + back.count openBrace
    let closing := front.count closeBrace + back.count closeBrace
    whole.under .missingSemicolon =
      first.under .missingSemicolon ++ (second.under .missingSemicolon).map (.below count) ∧
    ((whole.under .unmatchedParentheses).filter fun finding => count < finding.line) =
      (second.under .unmatchedParentheses).map (.below count) ∧
    (SignaturesClose (lines front) →
      ((whole.under .unmatchedParentheses).filter fun finding => finding.line ≤ count) =
        first.under .unmatchedParentheses) ∧
    (∀ index line, (lines front)[index]? = some line →
      ((∃ finding ∈ whole.under .unmatchedParentheses, finding.line = index + 1) ↔
        isFunctionHeader line = true ∧
          (((∃ other ∈ (lines front).drop index, openBrace ∈ other) ∧
            depthAt (lines front) index ≠ 0) ∨
          ((∀ other ∈ (lines front).drop index, openBrace ∉ other) ∧
            depthAt (lines front) index + signatureDepth (lines back) ≠ 0)))) ∧
    whole.under .braceMismatch =
      if opening = closing then
        []
      else
        [{ file := file
           line := 0
           rule := .braceMismatch
           message := utf8 "Brace mismatch: " ++ decimal opening ++ utf8 " opening, " ++
             decimal closing ++ utf8 " closing" }] := by
  intro count whole first second opening closing
  refine ⟨?_, ?_, ?_, ?_, ?_⟩
  · simp only [whole, first, second, content_under, findingsBy]
    rw [lines_append, semicolons_append, inFile_append, inFile_map_below]
  · simp only [whole, second, content_under, findingsBy]
    rw [filter_line_inFile file (fun line => count < line), lines_append, filter_parentheses_back,
      inFile_map_below]
  · intro close
    simp only [whole, first, content_under, findingsBy]
    rw [filter_line_inFile file (fun line => line ≤ count), lines_append, filter_parentheses_front,
      scan_opensUnmatched_append close]
  · intro index line found
    have inside : index < (lines front).length := (List.getElem?_eq_some_iff.mp found).1
    have foundThere : (lines (front ++ lineFeed :: back))[index]? = some line := by
      rw [lines_append, List.getElem?_append_left inside, found]
    rw [mem_under_parentheses_iff foundThere, lines_append, depthAt_append_ne_zero_iff inside]
  · simp only [whole, content_under, findingsBy]
    rw [braces, count_append_lineFeed (by decide), count_append_lineFeed (by decide)]
    apply apply_ite (inFile file)

/-- A signature that has its brace two lines further down, and a return statement. -/
def closedText : Bytes :=
  utf8 "function f((\n)\n\x7b\nreturn 1"

/-- A return statement, and a signature that has no brace. -/
def openText : Bytes :=
  utf8 "return 2\nfunction g("

theorem findings_of_closedText_and_openText :
    let whole := content [] (closedText ++ lineFeed :: openText)
    SignaturesClose (lines closedText) ∧
    whole.under .missingSemicolon =
      [semicolonFinding 4 (utf8 "return 1"), semicolonFinding 5 (utf8 "return 2")] ∧
    ((whole.under .unmatchedParentheses).filter fun finding => finding.line ≤ 4) =
      [parenthesisFinding 1] ∧
    ((whole.under .unmatchedParentheses).filter fun finding => 4 < finding.line) =
      [parenthesisFinding 6] := by
  have close : SignaturesClose (lines closedText) := by
    intro index line found header
    match index, found with
    | 0, found => exact ⟨utf8 "\x7b", by decide, by decide⟩
    | 1, found | 2, found | 3, found =>
      cases found
      exact absurd header (by decide)
  rcases findings_are_local [] closedText openText with ⟨semicolons, behind, before, _, _⟩
  refine ⟨close, ?_, ?_, ?_⟩
  · exact semicolons.trans (by decide)
  · exact (before close).trans (by decide)
  · exact behind.trans (by decide)

end Check
end PhpLint
