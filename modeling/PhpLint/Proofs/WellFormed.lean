import PhpLint.Proofs.Findings

namespace PhpLint
namespace Check

/-!
# The results of checks are well-formed

The findings of a file come in a fixed arrangement: the braces, of which there is at
most one finding, then the parentheses and then the semicolons, both with increasing
line numbers. The checks count the lines while they go through them, each on its own.
What a line number means is said here without them: the line with a number is the
text between two line feeds that has as many line feeds before it as there are
smaller numbers.
-/

/-! ## Lines -/

/-- The line with a number, which is counted from one, is the text between the line feeds before
and after it, or between them and the ends of the text. -/
def IsLine (text : Bytes) (number : Nat) (line : Bytes) : Prop :=
  ∃ before after : Bytes, text = before ++ line ++ after ∧ number = before.count lineFeed + 1 ∧
    (before = [] ∨ before.getLast? = some lineFeed) ∧ lineFeed ∉ line ∧
    (after = [] ∨ after.head? = some lineFeed)

/-- Before a line with a greater number there is something, which ends with a line feed. -/
theorem eq_concat_of_count {before : Bytes} {count : Nat}
    (ends : before = [] ∨ before.getLast? = some lineFeed)
    (counted : before.count lineFeed = count + 1) :
    ∃ earlier, before = earlier ++ [lineFeed] ∧ earlier.count lineFeed = count := by
  rcases ends with empty | last
  · rw [empty] at counted
    cases counted
  · rcases List.getLast?_eq_some_iff.mp last with ⟨earlier, rfl⟩
    rw [List.count_append, List.count_singleton_self] at counted
    exact ⟨earlier, rfl, Nat.succ.inj counted⟩

theorem eq_nil_of_count {before : Bytes} (ends : before = [] ∨ before.getLast? = some lineFeed)
    (counted : before.count lineFeed = 0) : before = [] := by
  rcases ends with empty | last
  · exact empty
  · rcases List.getLast?_eq_some_iff.mp last with ⟨earlier, rfl⟩
    rw [List.count_append, List.count_singleton_self] at counted
    cases counted

/-- A text begins with its first line. -/
theorem lines_append_head? {line after : Bytes} (oneLine : lineFeed ∉ line)
    (begins : after = [] ∨ after.head? = some lineFeed) :
    (lines (line ++ after)).head? = some line := by
  rcases begins with empty | first
  · rw [empty, List.append_nil, lines, Bytes.split_of_not_mem oneLine, List.head?_cons]
  · rcases List.head?_eq_some_iff.mp first with ⟨rest, rfl⟩
    rw [lines, Bytes.split_append_cons oneLine, List.head?_cons]

theorem getElem?_lines_of_isLine {text line : Bytes} {index : Nat}
    (isLine : IsLine text (index + 1) line) : (lines text)[index]? = some line := by
  rcases isLine with ⟨before, after, rfl, number, ends, oneLine, begins⟩
  have first := lines_append_head? oneLine begins
  rw [List.head?_eq_getElem?] at first
  have counted : before.count lineFeed = index := (Nat.succ.inj number).symm
  cases index with
  | zero =>
    rw [eq_nil_of_count ends counted]
    exact first
  | succ index =>
    rcases eq_concat_of_count ends counted with ⟨earlier, rfl, count⟩
    -- the earlier lines are as many as the index says
    have length : (lines earlier).length = index + 1 := by
      rw [lines, Bytes.length_split, count]
    have cut : lines (earlier ++ [lineFeed] ++ line ++ after) =
        lines earlier ++ lines (line ++ after) := by
      rw [List.append_assoc, List.append_assoc, List.singleton_append]
      exact Bytes.split_append_separator lineFeed earlier (line ++ after)
    rw [cut, List.getElem?_append_right (Nat.le_of_eq length), length, Nat.sub_self]
    exact first

namespace IsLine

variable {text line : Bytes} {b : UInt8}

/-- A line feed in front gives every line the next number. -/
theorem cons_lineFeed {number : Nat} (isLine : IsLine text number line) :
    IsLine (lineFeed :: text) (number + 1) line := by
  rcases isLine with ⟨before, after, rfl, rfl, ends, oneLine, begins⟩
  refine ⟨lineFeed :: before, after, rfl, ?_, ?_, oneLine, begins⟩
  · rw [List.count_cons_self]
  · rcases ends with rfl | last
    · exact Or.inr rfl
    · exact Or.inr (by rw [List.getLast?_cons, last]; rfl)

/-- Any other byte in front becomes part of the first line. -/
theorem cons_first (other : b ≠ lineFeed) (isLine : IsLine text 1 line) :
    IsLine (b :: text) 1 (b :: line) := by
  rcases isLine with ⟨before, after, rfl, number, ends, oneLine, begins⟩
  have counted : before.count lineFeed = 0 := (Nat.succ.inj number).symm
  rw [eq_nil_of_count ends counted]
  refine ⟨[], after, rfl, rfl, Or.inl rfl, ?_, begins⟩
  exact List.not_mem_cons_of_ne_of_not_mem (Ne.symm other) oneLine

/-- It leaves the later lines as they are. -/
theorem cons_later {index : Nat} (other : b ≠ lineFeed) (isLine : IsLine text (index + 2) line) :
    IsLine (b :: text) (index + 2) line := by
  rcases isLine with ⟨before, after, rfl, number, ends, oneLine, begins⟩
  have counted : before.count lineFeed = index + 1 := (Nat.succ.inj number).symm
  rcases eq_concat_of_count ends counted with ⟨earlier, rfl, _⟩
  refine ⟨b :: (earlier ++ [lineFeed]), after, rfl, ?_, ?_, oneLine, begins⟩
  · rw [number, List.count_cons_of_ne other]
  · rw [← List.cons_append, List.getLast?_concat]
    exact Or.inr rfl

end IsLine

theorem isLine_of_getElem?_lines {text line : Bytes} {index : Nat}
    (found : (lines text)[index]? = some line) : IsLine text (index + 1) line := by
  induction text generalizing index line with
  | nil =>
    rcases List.getElem?_eq_some_iff.mp found with ⟨short, rfl⟩
    have zero : index = 0 := by
      simp only [lines, Bytes.split, List.length_singleton] at short
      omega
    subst zero
    exact ⟨[], [], rfl, rfl, Or.inl rfl, List.not_mem_nil, Or.inl rfl⟩
  | cons b rest inductionHypothesis =>
    by_cases feed : b = lineFeed
    · subst feed
      have cut : lines (lineFeed :: rest) = [] :: lines rest :=
        Bytes.split_append_cons List.not_mem_nil rest
      rw [cut] at found
      cases index with
      | zero =>
        cases found
        exact ⟨[], lineFeed :: rest, rfl, rfl, Or.inl rfl, List.not_mem_nil, Or.inr rfl⟩
      | succ index => exact (inductionHypothesis found).cons_lineFeed
    · cases pieces : lines rest with
      | nil => exact absurd pieces (Bytes.split_ne_nil lineFeed rest)
      | cons first others =>
        have cut : lines (b :: rest) = (b :: first) :: others := by
          rw [lines, Bytes.split, if_neg feed]
          rw [lines] at pieces
          rw [pieces]
        rw [cut] at found
        rw [pieces] at inductionHypothesis
        cases index with
        | zero =>
          cases found
          have atFront : (first :: others)[0]? = some first := rfl
          exact (inductionHypothesis atFront).cons_first feed
        | succ index =>
          have further : (first :: others)[index + 1]? = some line := found
          exact (inductionHypothesis further).cons_later feed

/-- The lines of a text stand at their numbers. -/
theorem isLine_succ_iff {text line : Bytes} {index : Nat} :
    IsLine text (index + 1) line ↔ (lines text)[index]? = some line :=
  ⟨getElem?_lines_of_isLine, isLine_of_getElem?_lines⟩

/-! ## Results -/

/-- The three lists that the findings of a file consist of: at most one finding about braces, those
about parentheses at increasing lines, and those about semicolons at increasing lines. -/
structure Arranged (byBraces byParentheses bySemicolons : List Finding) : Prop where
  braces_length : byBraces.length ≤ 1
  braces_rule : ∀ finding ∈ byBraces, finding.rule = .braceMismatch
  parentheses_order : byParentheses.Pairwise fun first second => first.line < second.line
  parentheses_rule : ∀ finding ∈ byParentheses, finding.rule = .unmatchedParentheses
  semicolons_order : bySemicolons.Pairwise fun first second => first.line < second.line
  semicolons_rule : ∀ finding ∈ bySemicolons, finding.rule = .missingSemicolon

/-- What is true of the findings of a file with a content. The last three fields say that nothing
is left out: there is a finding for every reason to make one. -/
structure WellFormed (file text : Bytes) (findings : List Finding) : Prop where
  arranged : ∃ byBraces byParentheses bySemicolons,
    findings = byBraces ++ byParentheses ++ bySemicolons ∧
      Arranged byBraces byParentheses bySemicolons
  rule_ne_readError : ∀ finding ∈ findings, finding.rule ≠ .readError
  file_eq : ∀ finding ∈ findings, finding.file = file
  line_eq_zero_iff : ∀ finding ∈ findings, finding.line = 0 ↔ finding.rule = .braceMismatch
  line_bounds : ∀ finding ∈ findings, finding.rule ≠ .braceMismatch →
    1 ≤ finding.line ∧ finding.line ≤ 1 + text.count lineFeed
  quotes : ∀ finding ∈ findings, finding.rule = .missingSemicolon →
    ∃ line, IsLine text finding.line line ∧
      finding.message = utf8 "Missing semicolon after return statement: " ++ Bytes.trim line
  oneLine : ∀ finding ∈ findings, lineFeed ∉ finding.message
  braces_iff : (∃ finding ∈ findings, finding.rule = .braceMismatch) ↔
    text.count openBrace ≠ text.count closeBrace
  parentheses_iff : ∀ index line rest, (lines text).drop index = line :: rest →
    ((∃ finding ∈ findings, finding.rule = .unmatchedParentheses ∧ finding.line = index + 1) ↔
      isFunctionHeader line = true ∧ signatureDepth (line :: rest) ≠ 0)
  semicolons_iff : ∀ number line, IsLine text number line →
    ((∃ finding ∈ findings, finding.rule = .missingSemicolon ∧ finding.line = number) ↔
      lacksSemicolon (Bytes.trim line) = true)

/-- The same findings with the file in place. -/
def inFile (file : Bytes) (findings : List Finding) : List Finding :=
  findings.map fun finding => { finding with file := file }

theorem content_findings (file text : Bytes) :
    (content file text).findings = inFile file (braces text) ++
      inFile file (parentheses (lines text)) ++ inFile file (semicolons (lines text)) := by
  simp only [content, inFile, List.map_append]

theorem forall_rule_inFile {file : Bytes} {findings : List Finding} {rule : Rule}
    (each : ∀ finding ∈ findings, finding.rule = rule) :
    ∀ finding ∈ inFile file findings, finding.rule = rule := by
  intro finding member
  rcases List.mem_map.mp member with ⟨original, found, rfl⟩
  exact each original found

theorem pairwise_inFile {file : Bytes} {findings : List Finding}
    (ordered : findings.Pairwise fun first second => first.line < second.line) :
    (inFile file findings).Pairwise fun first second => first.line < second.line :=
  List.pairwise_map.mpr ordered

theorem content_arranged (file text : Bytes) :
    Arranged (inFile file (braces text)) (inFile file (parentheses (lines text)))
      (inFile file (semicolons (lines text))) where
  braces_length := by
    rw [inFile, List.length_map, braces]
    split
    · exact Nat.zero_le 1
    · exact Nat.le_refl 1
  braces_rule := by
    apply forall_rule_inFile
    intro finding member
    rw [(mem_braces_iff.mp member).2]
    rfl
  parentheses_order := by
    apply pairwise_inFile
    rw [parentheses, parenthesesFrom_eq_scan]
    exact scan_pairwise (fun _ _ => rfl) 1 (lines text)
  parentheses_rule := by
    apply forall_rule_inFile
    intro finding member
    rcases mem_parenthesesFrom_iff.mp member with ⟨index, line, rest, _, _, rfl⟩
    rfl
  semicolons_order := by
    apply pairwise_inFile
    rw [semicolons, semicolonsFrom_eq_scan]
    exact scan_pairwise (fun _ _ => rfl) 1 (lines text)
  semicolons_rule := by
    apply forall_rule_inFile
    intro finding member
    rcases mem_semicolonsFrom_iff.mp member with ⟨index, line, _, _, rfl⟩
    rfl

/-- Lines that are found have a number up to the number of all lines. -/
theorem succ_le_of_getElem?_lines {text line : Bytes} {index : Nat}
    (found : (lines text)[index]? = some line) : index + 1 ≤ 1 + text.count lineFeed := by
  have short : index < (lines text).length := (List.getElem?_eq_some_iff.mp found).1
  rw [lines, Bytes.length_split] at short
  omega

theorem content_wellFormed (file text : Bytes) :
    WellFormed file text (content file text).findings where
  arranged := ⟨_, _, _, content_findings file text, content_arranged file text⟩
  rule_ne_readError := fun finding member => content_rule_ne_readError member
  file_eq := by
    intro finding member
    rcases mem_content_iff.mp member with
      ⟨_, rfl⟩ | ⟨index, line, rest, _, _, rfl⟩ | ⟨index, line, _, _, rfl⟩ <;> rfl
  line_eq_zero_iff := by
    intro finding member
    rcases mem_content_iff.mp member with
      ⟨_, rfl⟩ | ⟨index, line, rest, _, _, rfl⟩ | ⟨index, line, _, _, rfl⟩ <;>
      simp [braceFinding, parenthesisFinding, semicolonFinding]
  line_bounds := by
    intro finding member otherRule
    rcases mem_content_iff.mp member with
      ⟨_, rfl⟩ | ⟨index, line, rest, dropped, _, rfl⟩ | ⟨index, line, found, _, rfl⟩
    · exact absurd rfl otherRule
    · exact ⟨Nat.succ_pos index, succ_le_of_getElem?_lines (getElem?_of_drop dropped)⟩
    · exact ⟨Nat.succ_pos index, succ_le_of_getElem?_lines found⟩
  quotes := by
    intro finding member rule
    rcases mem_content_iff.mp member with
      ⟨_, rfl⟩ | ⟨index, line, rest, _, _, rfl⟩ | ⟨index, line, found, _, rfl⟩
    · cases rule
    · cases rule
    · exact ⟨line, isLine_succ_iff.mpr found, rfl⟩
  oneLine := by
    intro finding member
    have reported : Reported ({} : Memory).view file finding := content_reported member
    exact reported.lineFeed_not_mem_message_of_read (content_rule_ne_readError member)
  braces_iff := by
    constructor
    · rintro ⟨finding, member, rule⟩
      rcases mem_content_iff.mp member with
        ⟨different, rfl⟩ | ⟨index, line, rest, _, _, rfl⟩ | ⟨index, line, _, _, rfl⟩
      · exact different
      · cases rule
      · cases rule
    · intro different
      exact ⟨_, mem_content_iff.mpr (Or.inl ⟨different, rfl⟩), rfl⟩
  parentheses_iff := by
    intro index line rest dropped
    have flagged_iff : opensUnmatched line rest = true ↔
        isFunctionHeader line = true ∧ signatureDepth (line :: rest) ≠ 0 := by
      simp only [opensUnmatched, Bool.and_eq_true, bne_iff_ne]
    rw [← flagged_iff]
    constructor
    · rintro ⟨finding, member, rule, number⟩
      rcases mem_content_iff.mp member with
        ⟨_, rfl⟩ | ⟨place, other, others, droppedThere, flagged, rfl⟩ | ⟨place, other, _, _, rfl⟩
      · cases rule
      · cases number
        rw [dropped] at droppedThere
        cases droppedThere
        exact flagged
      · cases rule
    · intro flagged
      exact ⟨_, mem_content_iff.mpr (Or.inr (Or.inl ⟨index, line, rest, dropped, flagged, rfl⟩)),
        rfl, rfl⟩
  semicolons_iff := by
    intro number line isLine
    obtain ⟨index, rfl⟩ : ∃ index, number = index + 1 := by
      rcases isLine with ⟨before, _, _, counted, _⟩
      exact ⟨before.count lineFeed, counted⟩
    have found := isLine_succ_iff.mp isLine
    constructor
    · rintro ⟨finding, member, rule, number⟩
      rcases mem_content_iff.mp member with
        ⟨_, rfl⟩ | ⟨place, other, rest, _, _, rfl⟩ | ⟨place, other, foundThere, flagged, rfl⟩
      · cases rule
      · cases rule
      · cases number
        rw [found] at foundThere
        cases foundThere
        exact flagged
    · intro flagged
      exact ⟨_, mem_content_iff.mpr (Or.inr (Or.inr ⟨index, line, found, flagged, rfl⟩)), rfl, rfl⟩

end Check

/-- The result of checking a file is about this file, and its findings are well-formed, whatever
the name and the content of the file are. What is found at a path, in whatever store, is either
the result of what could be read there or one finding about the error, which has no line. -/
theorem check_results_are_wellFormed :
    (∀ file text, (Check.content file text).file = file ∧
      Check.WellFormed file text (Check.content file text).findings) ∧
    ∀ (files : Files) (path : Bytes),
      (∃ text, files.read path = .ok text ∧ checkFile files path = Check.content path text) ∨
      ∃ error, files.read path = .error error ∧ checkFile files path = {
        file := path
        findings := [{
          file := path
          line := 0
          rule := .readError
          message := utf8 "Error reading file: " ++ error.message }] } := by
  constructor
  · intro file text
    exact ⟨rfl, Check.content_wellFormed file text⟩
  · intro files path
    unfold checkFile
    cases files.read path with
    | ok text => exact Or.inl ⟨text, rfl, rfl⟩
    | error error => exact Or.inr ⟨error, rfl, rfl⟩

end PhpLint
