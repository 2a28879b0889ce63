import PhpLint.Proofs.Locality
import PhpLint.Proofs.Padding
import PhpLint.Proofs.Returns

namespace PhpLint
namespace Check

open Bytes (IsBlank IsTrimmed Padded)

/-!
# Repairing return statements

A return statement that lacks a semicolon is repaired by a semicolon directly after its
text, before the white space at the end of the line. This takes one finding away and
leaves all others as they are: the line still begins no function definition, a semicolon
is neither a parenthesis nor a brace, and no line moves. So the statements can be repaired
one after another in any order, until only findings under other rules are left.
-/

/-- The line with a semicolon directly after its trimmed text. -/
def terminate (line : Bytes) : Bytes :=
  let indent := Utf8.unpieces ((Utf8.pieces line).takeWhile Utf8.Piece.isWhiteSpace)
  let statement := indent ++ Bytes.trim line
  statement ++ utf8 ";" ++ line.drop statement.length

/-- The text with a semicolon at the end of the statement in the line with a number. -/
def repair (number : Nat) (text : Bytes) : Bytes :=
  Bytes.join [lineFeed] ((lines text).modify (number - 1) terminate)

/-- Repairs what the findings are about, one after another. -/
def repairAll (order : List Finding) (text : Bytes) : Bytes :=
  order.foldl (fun repaired finding => repair finding.line repaired) text

/-! ## One line -/

section Line

variable {line before after : Bytes}

theorem takeWhile_pieces_of_isTrimmed {trimmed : Bytes} (isTrimmed : IsTrimmed line trimmed)
    (nonempty : trimmed ≠ []) (blankBefore : IsBlank before) (blankAfter : IsBlank after)
    (split : line = before ++ trimmed ++ after) :
    Utf8.unpieces ((Utf8.pieces line).takeWhile Utf8.Piece.isWhiteSpace) = before := by
  rcases blankBefore with ⟨characters, white, rfl⟩
  rcases blankAfter with ⟨others, _, rfl⟩
  have isWhite : ∀ piece ∈ characters.map Utf8.Piece.scalar, piece.isWhiteSpace = true :=
    List.forall_mem_map.mpr white
  rw [split, Utf8.pieces_append_encode, Utf8.pieces_encode_append, List.append_assoc,
    List.takeWhile_append_of_pos isWhite]
  cases pieces : Utf8.pieces trimmed with
  | nil =>
    rw [← Utf8.unpieces_pieces trimmed, pieces] at nonempty
    exact absurd rfl nonempty
  | cons piece rest =>
    have notWhite : ¬ piece.isWhiteSpace = true := by
      intro isWhite
      cases piece with
      | stray b => cases isWhite
      | scalar c =>
        apply isTrimmed.front c isWhite
        rw [← Utf8.head?_pieces_eq_some_iff, pieces, List.head?_cons]
    rw [List.cons_append, List.takeWhile_cons_of_neg notWhite, List.append_nil,
      Utf8.unpieces_map_scalar]

/-- The semicolon stands between the text of the line and the white space after it. -/
theorem terminate_eq (nonempty : Bytes.trim line ≠ []) (blankBefore : IsBlank before)
    (blankAfter : IsBlank after) (split : line = before ++ Bytes.trim line ++ after) :
    terminate line = before ++ Bytes.trim line ++ utf8 ";" ++ after := by
  have indent := takeWhile_pieces_of_isTrimmed (Bytes.isTrimmed_trim line) nonempty blankBefore
    blankAfter split
  have rest : line.drop (before ++ Bytes.trim line).length = after := by
    have cut := congrArg (List.drop (before ++ Bytes.trim line).length) split
    exact cut.trans List.drop_left
  simp only [terminate, indent, rest]

/-- A semicolon is no part of the white space after it. -/
theorem isTrimmed_semicolon (trimmed : IsTrimmed line (Bytes.trim line))
    (nonempty : Bytes.trim line ≠ []) (blankBefore : IsBlank before) (blankAfter : IsBlank after) :
    IsTrimmed (before ++ Bytes.trim line ++ utf8 ";" ++ after) (Bytes.trim line ++ utf8 ";") where
  between := ⟨before, after, blankBefore, blankAfter, by simp only [List.append_assoc]⟩
  front := by
    intro c white beginning
    have begins : Utf8.Begins (utf8 ";") := Utf8.begins_encode [';']
    exact trimmed.front c white (Utf8.prefix_of_prefix_append nonempty begins beginning)
  back := by
    intro c white ending
    -- the encoding would have the semicolon as its last byte
    rcases ending with ⟨rest, same⟩
    have lasts := congrArg List.getLast? same
    have semicolon : utf8 ";" = [59] := rfl
    rw [semicolon, List.getLast?_concat] at lasts
    rcases Utf8.utf8EncodeChar_eq_cons c with ⟨first, others, encoded, _, _⟩
    rw [List.getLast?_append_of_ne_nil _ (encoded ▸ List.cons_ne_nil first others)] at lasts
    have code := Utf8.forall_mem_utf8EncodeChar c 59 (List.mem_of_getLast? lasts)
    have isSemicolon : c = ';' := Char.toNat_inj.mp (code.resolve_left (by decide)).symm
    rw [isSemicolon] at white
    cases white

theorem return_prefix_of_missesSemicolon {trimmed : Bytes} (misses : MissesSemicolon trimmed) :
    utf8 "return" <+: trimmed := by
  rcases misses with rfl | ⟨begins, _⟩
  · exact List.prefix_refl _
  · exact List.IsPrefix.trans (by decide) begins

/-- A return statement does not begin a function definition. -/
theorem isFunctionHeader_of_return {statement : Bytes} (begins : utf8 "return" <+: statement) :
    isFunctionHeader statement = false := by
  rcases begins with ⟨rest, rfl⟩
  have noIndent : dropIndent (utf8 "return" ++ rest) = utf8 "return" ++ rest := by
    have pieces := Utf8.pieces_encode_append "return".toList rest
    rw [dropIndent]
    conv_rhs => rw [← Utf8.unpieces_pieces (utf8 "return" ++ rest)]
    exact congrArg Utf8.unpieces (pieces ▸ rfl)
  have noVisibility : dropVisibility (utf8 "return" ++ rest) = utf8 "return" ++ rest := rfl
  rw [isFunctionHeader, noIndent, noVisibility, noIndent]
  rfl

theorem missesSemicolon_semicolon (trimmed : Bytes) :
    ¬ MissesSemicolon (trimmed ++ utf8 ";") := by
  have ends : utf8 ";" <:+ trimmed ++ utf8 ";" := List.suffix_append _ _
  rintro (bare | ⟨_, noSemicolon, _⟩)
  · rw [bare] at ends
    exact absurd ends (by decide)
  · exact noSemicolon ends

end Line

/-! ## A reported line -/

section Reported

variable {line : Bytes}

/-- A reported line has a text, and the semicolon becomes the end of it. -/
theorem exists_terminate_eq (reported : lacksSemicolon (Bytes.trim line) = true) :
    ∃ before after, IsBlank before ∧ IsBlank after ∧ line = before ++ Bytes.trim line ++ after ∧
      terminate line = before ++ Bytes.trim line ++ utf8 ";" ++ after ∧
      IsTrimmed (terminate line) (Bytes.trim line ++ utf8 ";") := by
  have begins := return_prefix_of_missesSemicolon (lacksSemicolon_iff.mp reported)
  have nonempty : Bytes.trim line ≠ [] := by
    intro empty
    rw [empty] at begins
    exact absurd begins (by decide)
  have trimmed := Bytes.isTrimmed_trim line
  rcases trimmed.between with ⟨before, after, blankBefore, blankAfter, split⟩
  have terminated := terminate_eq nonempty blankBefore blankAfter split
  refine ⟨before, after, blankBefore, blankAfter, split, terminated, ?_⟩
  rw [terminated]
  exact isTrimmed_semicolon trimmed nonempty blankBefore blankAfter

theorem lacksSemicolon_terminate (reported : lacksSemicolon (Bytes.trim line) = true) :
    lacksSemicolon (Bytes.trim (terminate line)) = false := by
  rcases exists_terminate_eq reported with ⟨_, _, _, _, _, _, isTrimmed⟩
  rw [← isTrimmed.eq_trim, Bool.eq_false_iff, ne_eq, lacksSemicolon_iff]
  exact missesSemicolon_semicolon _

/-- There is one more semicolon, and nothing else has changed. -/
theorem count_terminate (reported : lacksSemicolon (Bytes.trim line) = true) {b : UInt8}
    (other : b ∉ utf8 ";") : (terminate line).count b = line.count b := by
  rcases exists_terminate_eq reported with ⟨before, after, _, _, split, terminated, _⟩
  have counted := congrArg (List.count b) split
  rw [terminated, counted]
  simp only [List.count_append, List.count_eq_zero_of_not_mem other, Nat.add_zero]

theorem alike_terminate (reported : lacksSemicolon (Bytes.trim line) = true) :
    Alike line (terminate line) where
  header := by
    have begins := return_prefix_of_missesSemicolon (lacksSemicolon_iff.mp reported)
    rcases exists_terminate_eq reported with ⟨_, _, _, _, _, _, isTrimmed⟩
    rw [isFunctionHeader_of_padded isTrimmed.between,
      isFunctionHeader_of_padded (Bytes.isTrimmed_trim line).between,
      isFunctionHeader_of_return begins,
      isFunctionHeader_of_return (begins.trans (List.prefix_append _ _))]
  balance := by
    rw [parenthesisBalance, parenthesisBalance, count_terminate reported (by decide),
      count_terminate reported (by decide)]
  brace := by
    rw [← List.count_pos_iff, ← List.count_pos_iff, count_terminate reported (by decide)]

end Reported

/-! ## All lines -/

theorem exists_append_of_getElem? {lines : List Bytes} {index : Nat} {line : Bytes}
    (found : lines[index]? = some line) (other : Bytes) :
    ∃ front back, lines = front ++ line :: back ∧ front.length = index ∧
      lines.set index other = front ++ other :: back := by
  rcases List.getElem?_eq_some_iff.mp found with ⟨inside, rfl⟩
  refine ⟨lines.take index, lines.drop (index + 1), ?_, ?_, ?_⟩
  · rw [← List.drop_eq_getElem_cons inside, List.take_append_drop]
  · exact List.length_take_of_le (Nat.le_of_lt inside)
  · rw [List.set_eq_take_append_cons_drop, if_pos inside]

/-- One line is replaced by a related one. -/
theorem forall₂_set {Related : Bytes → Bytes → Prop} (same : ∀ line, Related line line)
    {lines : List Bytes} {index : Nat} {line other : Bytes} (found : lines[index]? = some line)
    (related : Related line other) : List.Forall₂ Related lines (lines.set index other) := by
  rcases exists_append_of_getElem? found other with ⟨front, back, split, _, replaced⟩
  rw [replaced, split]
  apply List.rel_append
  · exact List.forall₂_same.mpr fun line _ => same line
  · exact .cons related (List.forall₂_same.mpr fun line _ => same line)

/-- If a line is replaced by one that passes the test, its finding is left out. -/
theorem scan_set (flags : Bytes → Bool) {report : Nat → Bytes → Finding} {lines : List Bytes}
    {index : Nat} {line other : Bytes} (found : lines[index]? = some line)
    (flagged : flags line = true) (passed : flags other = false) (number : Nat) :
    ∃ earlier later,
      scan (fun line _ => flags line) report number lines =
        earlier ++ report (number + index) line :: later ∧
      scan (fun line _ => flags line) report number (lines.set index other) = earlier ++ later := by
  rcases exists_append_of_getElem? found other with ⟨front, back, split, rfl, replaced⟩
  have reported : scan (fun line _ => flags line) report number (front ++ line :: back) = _ :=
    scan_append number front (line :: back)
  have repaired : scan (fun line _ => flags line) report number (front ++ other :: back) = _ :=
    scan_append number front (other :: back)
  rw [← split, scan, if_pos flagged] at reported
  rw [← replaced, scan, if_neg (Bool.eq_false_iff.mp passed)] at repaired
  exact ⟨_, _, reported, repaired⟩

/-! ## Texts -/

theorem lineFeed_not_mem_terminate {line : Bytes}
    (reported : lacksSemicolon (Bytes.trim line) = true) (oneLine : lineFeed ∉ line) :
    lineFeed ∉ terminate line := by
  rw [← List.count_eq_zero, count_terminate reported (by decide)]
  exact List.count_eq_zero_of_not_mem oneLine

theorem lines_repair {text line : Bytes} {index : Nat} (found : (lines text)[index]? = some line)
    (reported : lacksSemicolon (Bytes.trim line) = true) :
    lines (repair (index + 1) text) = (lines text).set index (terminate line) := by
  have replaced : (lines text).modify index terminate =
      (lines text).set index (terminate line) := by
    rw [List.modify_eq_set_getElem?, found]
    rfl
  rw [repair, Nat.add_sub_cancel, replaced]
  apply Bytes.split_join
  · intro empty
    exact Bytes.split_ne_nil lineFeed text ((List.set_eq_nil_iff _ _).mp empty)
  · intro piece member
    rcases List.mem_or_eq_of_mem_set member with kept | rfl
    · exact Bytes.not_mem_of_mem_split kept
    · apply lineFeed_not_mem_terminate reported
      exact Bytes.not_mem_of_mem_split (List.mem_of_getElem? found)

section Repair

variable {text line : Bytes} {index : Nat}

theorem braces_repair (found : (lines text)[index]? = some line)
    (reported : lacksSemicolon (Bytes.trim line) = true) :
    braces (repair (index + 1) text) = braces text := by
  apply braces_eq_of_forall₂
  rw [lines_repair found reported]
  apply forall₂_set (fun _ => ⟨rfl, rfl⟩) found
  exact ⟨count_terminate reported (by decide), count_terminate reported (by decide)⟩

theorem parentheses_repair (found : (lines text)[index]? = some line)
    (reported : lacksSemicolon (Bytes.trim line) = true) :
    parentheses (lines (repair (index + 1) text)) = parentheses (lines text) := by
  apply parentheses_eq_of_alike
  rw [lines_repair found reported]
  exact forall₂_set alike_refl found (alike_terminate reported)

theorem semicolons_repair (found : (lines text)[index]? = some line)
    (reported : lacksSemicolon (Bytes.trim line) = true) :
    ∃ earlier later,
      semicolons (lines text) =
        earlier ++ semicolonFinding (index + 1) (Bytes.trim line) :: later ∧
      semicolons (lines (repair (index + 1) text)) = earlier ++ later := by
  rw [lines_repair found reported, Nat.add_comm]
  simp only [semicolons, semicolonsFrom_eq_scan]
  exact scan_set (fun line => lacksSemicolon (Bytes.trim line)) found reported
    (lacksSemicolon_terminate reported) 1

end Repair

/-! ## Findings -/

/-- No finding is made twice. -/
theorem Arranged.nodup {byBraces byParentheses bySemicolons : List Finding}
    (arranged : Arranged byBraces byParentheses bySemicolons) :
    (byBraces ++ byParentheses ++ bySemicolons).Nodup := by
  have bracesOnce : byBraces.Nodup := by
    match byBraces, arranged.braces_length with
    | [], _ => exact List.nodup_nil
    | [finding], _ => exact List.nodup_singleton finding
  have parenthesesOnce : byParentheses.Nodup :=
    arranged.parentheses_order.imp fun before same => Nat.ne_of_lt before (congrArg _ same)
  have semicolonsOnce : bySemicolons.Nodup :=
    arranged.semicolons_order.imp fun before same => Nat.ne_of_lt before (congrArg _ same)
  have apart {finding other : Finding} {rule otherRule : Rule} (isRule : finding.rule = rule)
      (isOther : other.rule = otherRule) (different : rule ≠ otherRule) : finding ≠ other := by
    rintro rfl
    exact different (isRule.symm.trans isOther)
  rw [List.nodup_append, List.nodup_append]
  refine ⟨⟨bracesOnce, parenthesesOnce, ?_⟩, semicolonsOnce, ?_⟩
  · intro finding member other listed
    exact apart (arranged.braces_rule finding member) (arranged.parentheses_rule other listed)
      (by decide)
  · intro finding member other listed
    rcases List.mem_append.mp member with inBraces | inParentheses
    · exact apart (arranged.braces_rule finding inBraces) (arranged.semicolons_rule other listed)
        (by decide)
    · exact apart (arranged.parentheses_rule finding inParentheses)
        (arranged.semicolons_rule other listed) (by decide)

theorem content_nodup (file text : Bytes) : (content file text).findings.Nodup := by
  rw [content_findings]
  exact (content_arranged file text).nodup

theorem mem_under_semicolons_iff {file text : Bytes} {finding : Finding} :
    finding ∈ (content file text).under .missingSemicolon ↔
      ∃ index line, (lines text)[index]? = some line ∧ lacksSemicolon (Bytes.trim line) = true ∧
        finding = { semicolonFinding (index + 1) (Bytes.trim line) with file := file } := by
  simp only [content_under, findingsBy, inFile, List.mem_map, semicolons, mem_semicolonsFrom_iff,
    Nat.add_comm 1]
  constructor
  · rintro ⟨_, ⟨index, line, found, flagged, rfl⟩, rfl⟩
    exact ⟨index, line, found, flagged, rfl⟩
  · rintro ⟨index, line, found, flagged, rfl⟩
    exact ⟨_, ⟨index, line, found, flagged, rfl⟩, rfl⟩

/-- Repairing a return statement takes its finding away. -/
theorem findings_repair {file text line : Bytes} {index : Nat}
    (found : (lines text)[index]? = some line)
    (reported : lacksSemicolon (Bytes.trim line) = true) :
    (content file (repair (index + 1) text)).findings =
      (content file text).findings.erase
        { semicolonFinding (index + 1) (Bytes.trim line) with file := file } := by
  rcases semicolons_repair found reported with ⟨earlier, later, original, repaired⟩
  have once := content_nodup file text
  rw [content_findings, original, inFile_append, ← List.append_assoc] at once
  have notEarlier := fun member => (List.nodup_append.mp once).2.2 _ member _ List.mem_cons_self rfl
  rw [content_findings, content_findings, braces_repair found reported,
    parentheses_repair found reported, repaired, original, inFile_append, inFile_append,
    ← List.append_assoc, ← List.append_assoc, List.erase_append_right _ notEarlier]
  exact congrArg _ (List.erase_cons_head _ _).symm

/-- Repairing some return statements one after another takes their findings away. -/
theorem findings_repairAll {file text : Bytes} {order : List Finding} (distinct : order.Nodup)
    (reported : ∀ finding ∈ order, finding ∈ (content file text).under .missingSemicolon) :
    (content file (repairAll order text)).findings =
      (content file text).findings.filter fun finding => finding ∉ order := by
  induction order generalizing text with
  | nil => exact (List.filter_eq_self.mpr fun _ _ => decide_eq_true List.not_mem_nil).symm
  | cons first rest inductionHypothesis =>
    rcases List.nodup_cons.mp distinct with ⟨notAgain, restDistinct⟩
    have step : (content file (repair first.line text)).findings =
        (content file text).findings.erase first := by
      rcases mem_under_semicolons_iff.mp (reported first List.mem_cons_self) with
        ⟨index, line, found, flagged, same⟩
      rw [same]
      exact findings_repair found flagged
    -- the other statements are still reported, so they can be repaired next
    have stillReported : ∀ finding ∈ rest,
        finding ∈ (content file (repair first.line text)).under .missingSemicolon := by
      intro finding member
      have different : finding ≠ first := fun same => notAgain (same ▸ member)
      rcases List.mem_filter.mp (reported finding (List.mem_cons_of_mem first member)) with
        ⟨made, isSemicolon⟩
      rw [FileResult.under, step, List.mem_filter, List.mem_erase_of_ne different]
      exact ⟨made, isSemicolon⟩
    have onward : repairAll (first :: rest) text = repairAll rest (repair first.line text) := rfl
    rw [onward, inductionHypothesis restDistinct stillReported, step,
      (content_nodup file text).erase_eq_filter, List.filter_filter]
    apply List.filter_congr
    intro finding _
    rw [Bool.eq_iff_iff]
    simp only [Bool.and_eq_true, decide_eq_true_eq, bne_iff_ne, List.mem_cons, not_or, ne_eq,
      and_comm]

/-- A semicolon directly after the text of a reported line, with the white space around it left as
it is, takes away the finding about this line and no other. The findings, which are all different,
keep their lines, messages and order. After some reported lines have been repaired in any order,
exactly their findings are missing; after all of them, no return statement is reported any more,
and the findings under other rules are left. -/
theorem repairing_returns_removes_their_findings (file text : Bytes) :
    let findings := (content file text).findings
    let reported := (content file text).under .missingSemicolon
    findings.Nodup ∧
    (∀ finding ∈ reported, ∃ index line before after,
      finding.line = index + 1 ∧ (lines text)[index]? = some line ∧
      IsBlank before ∧ IsBlank after ∧ line = before ++ Bytes.trim line ++ after ∧
      lines (repair finding.line text) =
        (lines text).set index (before ++ Bytes.trim line ++ utf8 ";" ++ after) ∧
      (content file (repair finding.line text)).findings = findings.erase finding) ∧
    (∀ order : List Finding, order.Nodup → (∀ finding ∈ order, finding ∈ reported) →
      (content file (repairAll order text)).findings =
        findings.filter fun finding => finding ∉ order) ∧
    ∀ order : List Finding, order.Perm reported →
      (content file (repairAll order text)).under .missingSemicolon = [] ∧
      (content file (repairAll order text)).findings =
        findings.filter fun finding => finding.rule ≠ .missingSemicolon := by
  intro findings reported
  refine ⟨content_nodup file text, ?_, fun order => findings_repairAll, ?_⟩
  · intro finding member
    rcases mem_under_semicolons_iff.mp member with ⟨index, line, found, flagged, rfl⟩
    rcases exists_terminate_eq flagged with
      ⟨before, after, blankBefore, blankAfter, split, terminated, _⟩
    refine ⟨index, line, before, after, rfl, found, blankBefore, blankAfter, split, ?_,
      findings_repair found flagged⟩
    rw [← terminated]
    exact lines_repair found flagged
  · intro order isOrder
    have distinct : order.Nodup := isOrder.nodup_iff.mpr ((content_nodup file text).filter _)
    have left := findings_repairAll distinct fun finding member => isOrder.mem_iff.mp member
    have others : (content file (repairAll order text)).findings =
        findings.filter fun finding => finding.rule ≠ .missingSemicolon := by
      rw [left]
      apply List.filter_congr
      intro finding made
      have listed : finding ∈ order ↔ finding.rule = .missingSemicolon := by
        rw [isOrder.mem_iff, ← decide_eq_true_eq (p := finding.rule = _)]
        exact List.mem_filter.trans (and_iff_right made)
      exact decide_eq_decide.mpr (not_congr listed)
    refine ⟨?_, others⟩
    rw [FileResult.under, others, List.filter_filter, List.filter_eq_nil_iff]
    intro finding _
    simp

/-- A signature that goes on over a return statement with white space around it, a brace that is
never closed, and a return statement without a value. -/
def unterminatedText : Bytes :=
  utf8 "function f(\n\treturn g( \r\n\x7b\n return"

theorem repairing_unterminatedText :
    let last := semicolonFinding 4 (utf8 "return")
    let first := semicolonFinding 2 (utf8 "return g(")
    let repaired := repairAll [last, first] unterminatedText
    (content [] unterminatedText).under .missingSemicolon = [first, last] ∧
    repaired = utf8 "function f(\n\treturn g(; \r\n\x7b\n return;" ∧
    (content [] repaired).findings = [braceFinding 1 0, parenthesisFinding 1] := by
  intro last first repaired
  have reported : (content [] unterminatedText).under .missingSemicolon = [first, last] := by
    decide
  have isOrder : [last, first].Perm ((content [] unterminatedText).under .missingSemicolon) := by
    rw [reported]
    exact List.Perm.swap first last []
  rcases repairing_returns_removes_their_findings [] unterminatedText with ⟨_, _, _, inAnyOrder⟩
  refine ⟨reported, by decide, ?_⟩
  exact (inAnyOrder _ isOrder).2.trans (by decide)

end Check
end PhpLint
