import PhpLint.Check.Content

namespace PhpLint
namespace Check

/-!
# Going through the lines of a file

The checks of parentheses and of semicolons go through the lines in the same way:
every line is tested together with the lines after it, and a finding is made of the
number of a line that fails. So both of them report exactly the lines that fail, in
their order. Each check reports under a rule of its own, and none of them under the
rule for files that cannot be read.
-/

/-- Reports the lines that are flagged, of which the first has the given number. Whether a line is
flagged may depend on the lines after it. -/
def scan (flags : Bytes → List Bytes → Bool) (report : Nat → Bytes → Finding) :
    Nat → List Bytes → List Finding
  | _, [] => []
  | number, line :: rest =>
    if flags line rest then
      report number line :: scan flags report (number + 1) rest
    else
      scan flags report (number + 1) rest

/-- Whether a line opens a signature whose parentheses do not match. -/
def opensUnmatched (line : Bytes) (rest : List Bytes) : Bool :=
  isFunctionHeader line && signatureDepth (line :: rest) != 0

theorem parenthesesFrom_eq_scan (number : Nat) (lines : List Bytes) :
    parenthesesFrom number lines =
      scan opensUnmatched (fun place _ => parenthesisFinding place) number lines := by
  induction lines generalizing number with
  | nil => rfl
  | cons line rest inductionHypothesis =>
    rw [parenthesesFrom, scan, inductionHypothesis]
    rfl

theorem semicolonsFrom_eq_scan (number : Nat) (lines : List Bytes) :
    semicolonsFrom number lines =
      scan (fun line _ => lacksSemicolon (Bytes.trim line))
        (fun place line => semicolonFinding place (Bytes.trim line)) number lines := by
  induction lines generalizing number with
  | nil => rfl
  | cons line rest inductionHypothesis => rw [semicolonsFrom, scan, inductionHypothesis]

section Scan

variable {flags : Bytes → List Bytes → Bool} {report : Nat → Bytes → Finding}

theorem mem_scan_cons_iff {number : Nat} {line : Bytes} {rest : List Bytes} {finding : Finding} :
    finding ∈ scan flags report number (line :: rest) ↔
      (flags line rest = true ∧ finding = report number line) ∨
        finding ∈ scan flags report (number + 1) rest := by
  rw [scan]
  split
  · next flagged => simp [flagged]
  · next passed => simp [passed]

/-- Every line that is flagged is reported with its number, and nothing else is. -/
theorem mem_scan_iff {number : Nat} {lines : List Bytes} {finding : Finding} :
    finding ∈ scan flags report number lines ↔
      ∃ index line rest, lines.drop index = line :: rest ∧ flags line rest = true ∧
        finding = report (number + index) line := by
  induction lines generalizing number with
  | nil => simp [scan]
  | cons first others inductionHypothesis =>
    rw [mem_scan_cons_iff, inductionHypothesis]
    constructor
    · rintro (⟨flagged, rfl⟩ | ⟨index, line, rest, dropped, flagged, rfl⟩)
      · exact ⟨0, first, others, rfl, flagged, rfl⟩
      · exact ⟨index + 1, line, rest, dropped, flagged, by rw [Nat.add_assoc, Nat.add_comm 1]⟩
    · rintro ⟨index, line, rest, dropped, flagged, rfl⟩
      cases index with
      | zero =>
        cases dropped
        exact Or.inl ⟨flagged, rfl⟩
      | succ index =>
        exact Or.inr ⟨index, line, rest, dropped, flagged, by rw [Nat.add_assoc, Nat.add_comm 1]⟩

/-- Lines that follow each other are scanned one after the other, but the first ones are tested with
the others in view. -/
theorem scan_append (number : Nat) (front back : List Bytes) :
    scan flags report number (front ++ back) =
      scan (fun line rest => flags line (rest ++ back)) report number front ++
        scan flags report (number + front.length) back := by
  induction front generalizing number with
  | nil => rfl
  | cons line rest inductionHypothesis =>
    have further : number + 1 + rest.length = number + (line :: rest).length := by
      rw [List.length_cons, Nat.add_assoc, Nat.add_comm 1]
    rw [List.cons_append, scan, scan, inductionHypothesis, further]
    split
    · rw [List.cons_append]
    · rfl

/-- Tests that agree on the lines of a text report the same of them. -/
theorem scan_congr {others : Bytes → List Bytes → Bool} {lines : List Bytes}
    (same : ∀ index line rest, lines.drop index = line :: rest → others line rest = flags line rest)
    (number : Nat) : scan others report number lines = scan flags report number lines := by
  induction lines generalizing number with
  | nil => rfl
  | cons first rest inductionHypothesis =>
    rw [scan, scan, same 0 first rest rfl,
      inductionHypothesis fun index line later dropped => same (index + 1) line later dropped]

/-- The numbers of the reported lines are those of lines that are scanned. -/
theorem scan_bounds (numbered : ∀ number line, (report number line).line = number) {number : Nat}
    {lines : List Bytes} {finding : Finding} (member : finding ∈ scan flags report number lines) :
    number ≤ finding.line ∧ finding.line < number + lines.length := by
  rcases mem_scan_iff.mp member with ⟨index, line, rest, dropped, _, rfl⟩
  have inside : index < lines.length := by
    apply Nat.lt_of_not_le
    intro outside
    rw [List.drop_eq_nil_of_le outside] at dropped
    cases dropped
  rw [numbered]
  omega

/-- The numbers of the reported lines increase. -/
theorem scan_pairwise (numbered : ∀ number line, (report number line).line = number) (number : Nat)
    (lines : List Bytes) :
    (scan flags report number lines).Pairwise fun first second => first.line < second.line := by
  induction lines generalizing number with
  | nil => exact List.Pairwise.nil
  | cons line rest inductionHypothesis =>
    rw [scan]
    split
    · refine List.pairwise_cons.mpr ⟨?_, inductionHypothesis (number + 1)⟩
      intro later member
      rcases mem_scan_iff.mp member with ⟨index, other, _, _, _, rfl⟩
      rw [numbered, numbered]
      omega
    · exact inductionHypothesis (number + 1)

end Scan

/-! ## The findings of each check -/

theorem mem_braces_iff {content : Bytes} {finding : Finding} :
    finding ∈ braces content ↔ content.count openBrace ≠ content.count closeBrace ∧
      finding = braceFinding (content.count openBrace) (content.count closeBrace) := by
  simp only [braces]
  split
  · next balanced => simp [balanced]
  · next different => simp [different]

theorem mem_parenthesesFrom_iff {number : Nat} {lines : List Bytes} {finding : Finding} :
    finding ∈ parenthesesFrom number lines ↔
      ∃ index line rest, lines.drop index = line :: rest ∧ opensUnmatched line rest = true ∧
        finding = parenthesisFinding (number + index) := by
  rw [parenthesesFrom_eq_scan, mem_scan_iff]

theorem getElem?_of_drop {lines : List Bytes} {index : Nat} {line : Bytes} {rest : List Bytes}
    (dropped : lines.drop index = line :: rest) : lines[index]? = some line := by
  rw [← List.head?_drop, dropped, List.head?_cons]

theorem mem_semicolonsFrom_iff {number : Nat} {lines : List Bytes} {finding : Finding} :
    finding ∈ semicolonsFrom number lines ↔
      ∃ index line, lines[index]? = some line ∧ lacksSemicolon (Bytes.trim line) = true ∧
        finding = semicolonFinding (number + index) (Bytes.trim line) := by
  rw [semicolonsFrom_eq_scan, mem_scan_iff]
  constructor
  · rintro ⟨index, line, rest, dropped, flagged, same⟩
    exact ⟨index, line, getElem?_of_drop dropped, flagged, same⟩
  · rintro ⟨index, line, found, flagged, same⟩
    rw [← List.head?_drop] at found
    rcases List.head?_eq_some_iff.mp found with ⟨rest, dropped⟩
    exact ⟨index, line, rest, dropped, flagged, same⟩

/-- The findings of a file are those of the three checks, with the file in place. -/
theorem mem_content_iff {file text : Bytes} {finding : Finding} :
    finding ∈ (content file text).findings ↔
      (text.count openBrace ≠ text.count closeBrace ∧ finding =
        { braceFinding (text.count openBrace) (text.count closeBrace) with file := file }) ∨
      (∃ index line rest, (lines text).drop index = line :: rest ∧
        opensUnmatched line rest = true ∧
        finding = { parenthesisFinding (index + 1) with file := file }) ∨
      ∃ index line, (lines text)[index]? = some line ∧ lacksSemicolon (Bytes.trim line) = true ∧
        finding = { semicolonFinding (index + 1) (Bytes.trim line) with file := file } := by
  simp only [content, List.mem_map, List.mem_append, parentheses, semicolons, mem_braces_iff,
    mem_parenthesesFrom_iff, mem_semicolonsFrom_iff, Nat.add_comm 1]
  constructor
  · rintro ⟨_, (⟨different, rfl⟩ | ⟨index, line, rest, dropped, flagged, rfl⟩) |
      ⟨index, line, found, flagged, rfl⟩, rfl⟩
    · exact Or.inl ⟨different, rfl⟩
    · exact Or.inr (Or.inl ⟨index, line, rest, dropped, flagged, rfl⟩)
    · exact Or.inr (Or.inr ⟨index, line, found, flagged, rfl⟩)
  · rintro (⟨different, rfl⟩ | ⟨index, line, rest, dropped, flagged, rfl⟩ |
      ⟨index, line, found, flagged, rfl⟩)
    · exact ⟨_, Or.inl (Or.inl ⟨different, rfl⟩), rfl⟩
    · exact ⟨_, Or.inl (Or.inr ⟨index, line, rest, dropped, flagged, rfl⟩), rfl⟩
    · exact ⟨_, Or.inr ⟨index, line, found, flagged, rfl⟩, rfl⟩

/-- The content of a file never gives a read error. -/
theorem content_rule_ne_readError {file text : Bytes} {finding : Finding}
    (member : finding ∈ (content file text).findings) : finding.rule ≠ .readError := by
  rcases mem_content_iff.mp member with
    ⟨_, rfl⟩ | ⟨index, line, rest, _, _, rfl⟩ | ⟨index, line, _, _, rfl⟩ <;>
    simp [braceFinding, parenthesisFinding, semicolonFinding]

end Check
end PhpLint
