import PhpLint.Proofs.Findings
import PhpLint.Proofs.Json
import PhpLint.Proofs.Quoted

namespace PhpLint

/-!
# Reports without escape bytes

To a terminal the escape byte is the beginning of a command. A report has no use for it apart
from colours: its own words and numbers are visible, JSON and quoted scalars escape all control
characters, and a literal block only repeats the lines of its text. Of a file, a message holds
at most one line and the path. So a report holds an escape byte only if a path or the content
of a file does.
-/

/-- The byte that begins a command to a terminal. -/
def escape : UInt8 :=
  0x1B

theorem escape_not_mem_of_visible {text : Bytes} (visible : Quoted.Visible text) :
    escape ∉ text := by
  intro member
  exact absurd (visible escape member) (by decide)

theorem escape_not_mem_decimal (n : Nat) : escape ∉ decimal n := by
  intro member
  exact absurd (decimal_all_digits n escape member) (by decide)

/-! ## JSON -/

namespace Json

theorem escape_not_mem_encodeChar (c : Char) : escape ∉ encodeChar c := by
  unfold encodeChar
  simp only [Bool.or_eq_true, decide_eq_true_eq]
  split_ifs with marked backspace formFeed lineFeed carriageReturn tab special
  · rcases marked with rfl | rfl
    · decide
    · decide
  · decide
  · decide
  · decide
  · decide
  · decide
  · rw [unicodeEscape, List.mem_append, not_or]
    exact ⟨by decide, escape_not_mem_of_visible (Quoted.visible_hexDigits 4 c.toNat)⟩
  · have low : escape.toNat = 0x1B := rfl
    apply Quoted.not_mem_utf8EncodeChar (by decide)
    intro same
    omega

theorem escape_not_mem_newLine (level : Nat) : escape ∉ newLine level := by
  rw [newLine, List.mem_append, not_or]
  refine ⟨by decide, ?_⟩
  intro member
  exact absurd (List.eq_of_mem_replicate member) (by decide)

theorem escape_not_mem_encodeText (content : Bytes) : escape ∉ encodeText content := by
  have inside : escape ∉ (Utf8.chars content).flatMap encodeChar := by
    intro member
    rcases List.mem_flatMap.mp member with ⟨c, _, inChar⟩
    exact escape_not_mem_encodeChar c inChar
  simp only [encodeText, List.mem_append, not_or]
  exact ⟨⟨by decide, inside⟩, by decide⟩

/-- A document has no escape bytes, whatever its texts are. -/
theorem escape_not_mem_document (json : Json) : escape ∉ json.document := by
  have kept : IsKept fun text => escape ∉ text :=
    { nil := List.not_mem_nil
      append := fun first second member => (List.mem_append.mp member).elim first second
      mark := by
        intro mark listed
        have all : marks.all (fun mark => escape ∉ mark) = true := by decide
        exact of_decide_eq_true (List.all_eq_true.mp all mark listed)
      newLine := escape_not_mem_newLine
      number := escape_not_mem_decimal
      text := escape_not_mem_encodeText }
  rw [document, List.mem_append, not_or]
  exact ⟨kept.render json 0, by decide⟩

end Json

/-! ## Scalars -/

theorem Bytes.eq_of_cut?_eq_some {needle text before after : Bytes}
    (found : Bytes.cut? needle text = some (before, after)) : text = before ++ needle ++ after := by
  induction text generalizing before with
  | nil =>
    simp only [Bytes.cut?] at found
    split at found
    · next empty =>
      cases found
      rw [List.isEmpty_iff.mp empty]
      rfl
    · cases found
  | cons b rest inductionHypothesis =>
    simp only [Bytes.cut?] at found
    split at found
    · next isPrefix =>
      cases found
      rw [List.nil_append]
      exact (List.prefix_iff_eq_append.mp (List.isPrefixOf_iff_prefix.mp isPrefix)).symm
    · rcases Option.map_eq_some_iff.mp found with ⟨⟨front, back⟩, later, same⟩
      cases same
      rw [inductionHypothesis later]
      rfl

namespace Report

theorem mem_of_mem_splitAll {separator : Bytes} {b : UInt8} {fuel : Nat} {text piece : Bytes}
    (listed : piece ∈ splitAll separator fuel text) (member : b ∈ piece) : b ∈ text := by
  induction fuel generalizing text with
  | zero =>
    rw [List.mem_singleton.mp listed] at member
    exact member
  | succ fuel inductionHypothesis =>
    rw [splitAll] at listed
    split at listed
    · rw [List.mem_singleton.mp listed] at member
      exact member
    · next front back found =>
      rw [Bytes.eq_of_cut?_eq_some found, List.mem_append, List.mem_append]
      rcases List.mem_cons.mp listed with here | later
      · exact Or.inl (Or.inl (here ▸ member))
      · exact Or.inr (inductionHypothesis later)

theorem mem_of_mem_dropEnd {ending text : Bytes} {b : UInt8} (member : b ∈ dropEnd ending text) :
    b ∈ text := by
  unfold dropEnd at member
  split at member
  · exact List.mem_of_mem_take member
  · exact member

theorem escape_not_mem_literalBlock {lineEnd text : Bytes} (inEnd : escape ∉ lineEnd)
    (absent : escape ∉ text) : escape ∉ literalBlock lineEnd text := by
  have inHeader : escape ∉ blockHeader lineEnd text := by
    unfold blockHeader
    split_ifs <;> decide
  have inIndent : escape ∉ utf8 (if lineEnd = carriageReturn then "  " else "    ") := by
    split_ifs <;> decide
  simp only [literalBlock, List.mem_append, not_or]
  refine ⟨⟨inHeader, inEnd⟩, ?_⟩
  intro member
  rcases Bytes.mem_join (mem_of_mem_dropEnd (mem_of_mem_dropEnd member)) with
    between | ⟨line, listed, inLine⟩
  · exact inEnd between
  · rcases List.mem_map.mp listed with ⟨piece, isPiece, rfl⟩
    rcases List.mem_append.mp inLine with inFront | inPiece
    · exact inIndent inFront
    · exact absent (mem_of_mem_splitAll isPiece inPiece)

theorem escape_not_mem_scalar {text : Bytes} (absent : escape ∉ text) : escape ∉ scalar text := by
  unfold scalar
  split
  · exact escape_not_mem_of_visible (Quoted.visible_encode text)
  · split
    · apply escape_not_mem_literalBlock _ absent
      unfold lineBreak
      dsimp only
      split_ifs <;> decide
    · exact absent

/-! ## Results -/

/-- Neither the path nor a message of a result holds an escape byte. -/
structure Unescaped (result : FileResult) : Prop where
  file : escape ∉ result.file
  message : ∀ finding ∈ result.findings, escape ∉ finding.message

theorem escape_not_mem_text {finding : Finding} (absent : escape ∉ finding.message) :
    escape ∉ finding.text := by
  unfold Finding.text
  split
  · simp only [List.mem_append, not_or]
    exact ⟨⟨⟨by decide, escape_not_mem_decimal finding.line⟩, by decide⟩, absent⟩
  · exact absent

theorem escape_not_mem_sarif (version : Bytes) (results : List FileResult) :
    escape ∉ sarif version results :=
  Json.escape_not_mem_document _

theorem escape_not_mem_yamlFinding {finding : Finding} (absent : escape ∉ finding.message) :
    escape ∉ yamlFinding finding := by
  have inRule : escape ∉ scalar finding.rule.id :=
    escape_not_mem_scalar (by cases finding.rule <;> decide)
  have inLine : escape ∉ (if 0 < finding.line then
      utf8 "    line: " ++ decimal finding.line ++ utf8 "\n" else []) := by
    split
    · simp only [List.mem_append, not_or]
      exact ⟨⟨by decide, escape_not_mem_decimal finding.line⟩, by decide⟩
    · exact List.not_mem_nil
  simp only [yamlFinding, List.mem_append, not_or]
  exact ⟨⟨⟨⟨⟨⟨by decide, inRule⟩, by decide⟩, inLine⟩, by decide⟩, escape_not_mem_scalar absent⟩,
    by decide⟩

theorem escape_not_mem_yaml {results : List FileResult}
    (unescaped : ∀ result ∈ results, Unescaped result) : escape ∉ yaml results := by
  have inFile : ∀ result ∈ results, escape ∉ yamlFile result := by
    intro result listed
    have inFindings : escape ∉ result.findings.flatMap yamlFinding := by
      intro member
      rcases List.mem_flatMap.mp member with ⟨finding, found, inside⟩
      exact escape_not_mem_yamlFinding ((unescaped result listed).message finding found) inside
    simp only [yamlFile, List.mem_append, not_or]
    exact ⟨⟨⟨by decide, escape_not_mem_scalar (unescaped result listed).file⟩, by decide⟩,
      inFindings⟩
  simp only [yaml, List.mem_append, not_or]
  refine ⟨⟨⟨by decide, escape_not_mem_decimal _⟩, by decide⟩, ?_⟩
  split
  · decide
  · rw [List.mem_append, not_or]
    refine ⟨by decide, ?_⟩
    intro member
    rcases List.mem_flatMap.mp member with ⟨result, listed, inside⟩
    exact inFile result (List.mem_filter.mp listed).1 inside

end Report

/-- What a message tells of the content of a file is a part of the content. -/
theorem Check.escape_not_mem_message {file text : Bytes} {finding : Finding}
    (found : finding ∈ (Check.content file text).findings) (absent : escape ∉ text) :
    escape ∉ finding.message := by
  rcases Check.mem_content_iff.mp found with
    ⟨_, rfl⟩ | ⟨index, line, rest, _, _, rfl⟩ | ⟨index, line, inText, _, rfl⟩
  · simp only [Check.braceFinding, List.mem_append, not_or]
    exact ⟨⟨⟨⟨by decide, escape_not_mem_decimal _⟩, by decide⟩, escape_not_mem_decimal _⟩,
      by decide⟩
  · simp only [Check.parenthesisFinding]
    decide
  · simp only [Check.semicolonFinding, List.mem_append, not_or]
    refine ⟨by decide, ?_⟩
    intro member
    exact absent (Bytes.mem_of_mem_split (List.mem_of_getElem? inText)
      (Bytes.mem_of_mem_trim member))

theorem Report.unescaped_checkFile {files : Files} {path : Bytes}
    (brings : files.BringsNo escape) (inPath : escape ∉ path)
    (inContent : ∀ content, files.read path = .ok content → escape ∉ content) :
    Report.Unescaped (checkFile files path) := by
  constructor
  · rw [checkFile_file]
    exact inPath
  · intro finding found
    unfold checkFile at found
    cases isRead : files.read path with
    | ok content =>
      rw [isRead] at found
      exact Check.escape_not_mem_message found (inContent content isRead)
    | error error =>
      rw [isRead] at found
      rw [List.mem_singleton.mp found, List.mem_append, not_or]
      exact ⟨by decide, brings path error isRead inPath⟩

end PhpLint
