import PhpLint.Proofs.Findings
import PhpLint.Proofs.YamlReader

namespace PhpLint
namespace Report

/-!
# The YAML report is lossless

Whatever stands in the files, the report of their results has one line for every
scalar, and the line reader gets all scalars back. For messages the reason is
that they hold a colon with a space after it, so that they are quoted; the one
message without it is a fixed text. A path is quoted or has no line breaks, and a
plain text never begins with a quote, so the reader takes it for what it is.
-/

/-! ## Scalars on one line -/

/-- A text without line feeds and carriage returns. -/
def Unbroken (text : Bytes) : Prop :=
  ∀ b ∈ text, b ∉ carriageReturn ++ lineFeed

-- The instance is named because the search for one may go through all bytes instead of the text.
instance (text : Bytes) : Decidable (Unbroken text) :=
  List.decidableBAll (fun b => b ∉ carriageReturn ++ lineFeed) text

theorem Unbroken.append {first second : Bytes} (unbrokenFirst : Unbroken first)
    (unbrokenSecond : Unbroken second) : Unbroken (first ++ second) := by
  intro b member
  rcases List.mem_append.mp member with inFirst | inSecond
  · exact unbrokenFirst b inFirst
  · exact unbrokenSecond b inSecond

theorem unbroken_of_visible {text : Bytes} (visible : Quoted.Visible text) : Unbroken text := by
  intro b member isBreak
  have printed := visible b member
  rcases List.mem_append.mp isBreak with carriage | feed
  · rw [List.mem_singleton.mp carriage] at printed
    exact absurd printed (by decide)
  · rw [List.mem_singleton.mp feed] at printed
    exact absurd printed (by decide)

theorem unbroken_decimal (n : Nat) : Unbroken (decimal n) := by
  apply unbroken_of_visible
  intro b member
  have digit := Numeral.toNat_of_isDigitOf (decimal_all_digits n b member)
  omega

theorem scalar_of_needsQuotes {text : Bytes} (quoted : needsQuotes text = true) :
    scalar text = Quoted.encode text := by
  rw [scalar, if_pos quoted]

/-- Each of the possible line breaks is looked for in vain. -/
theorem occurs_lineBreak {text : Bytes} (unbroken : Unbroken text) :
    Bytes.occurs (lineBreak text) text = false := by
  have mark : ∃ b ∈ lineBreak text, b ∈ carriageReturn ++ lineFeed := by
    unfold lineBreak
    simp only
    split
    · exact ⟨13, by decide, by decide⟩
    · split
      · exact ⟨13, by decide, by decide⟩
      · exact ⟨10, by decide, by decide⟩
  rcases mark with ⟨b, inBreak, isBreak⟩
  apply Bool.eq_false_iff.mpr
  intro occurs
  have inside : lineBreak text <:+: text := Bytes.occurs_iff.mp occurs
  exact unbroken b (inside.subset inBreak) isBreak

theorem scalar_of_unbroken {text : Bytes} (plain : needsQuotes text = false)
    (unbroken : Unbroken text) : scalar text = text := by
  rw [scalar, plain, occurs_lineBreak unbroken]
  rfl

/-- The texts that take up a single line. -/
def StaysOnLine (text : Bytes) : Prop :=
  needsQuotes text = true ∨ Unbroken text

theorem StaysOnLine.unbroken_scalar {text : Bytes} (stays : StaysOnLine text) :
    Unbroken (scalar text) := by
  cases quoted : needsQuotes text with
  | true =>
    rw [scalar_of_needsQuotes quoted]
    exact unbroken_of_visible (Quoted.visible_encode text)
  | false =>
    have unbroken := stays.resolve_left (by rw [quoted]; decide)
    rw [scalar_of_unbroken quoted unbroken]
    exact unbroken

theorem head?_ne_quote {text : Bytes} (plain : needsQuotes text = false) :
    text.head? ≠ some Quoted.quote := by
  intro quote
  have indicated : (some Quoted.quote).any indicators.contains = true := by decide
  rw [needsQuotes, quote, indicated] at plain
  simp at plain

/-- A scalar on one line is read back. -/
theorem StaysOnLine.readScalar?_scalar {text : Bytes} (stays : StaysOnLine text) :
    readScalar? (scalar text) = some text := by
  cases quoted : needsQuotes text with
  | true =>
    have marked : (Quoted.encode text).head? = some Quoted.quote := rfl
    rw [scalar_of_needsQuotes quoted, readScalar?, if_pos marked, Quoted.decode?_encode]
  | false =>
    have unbroken := stays.resolve_left (by rw [quoted]; decide)
    rw [scalar_of_unbroken quoted unbroken, readScalar?, if_neg (head?_ne_quote quoted)]

/-! ## The texts of results -/

theorem staysOnLine_ruleId (rule : Rule) : StaysOnLine rule.id := by
  right
  cases rule <;> decide

/-- The message that does not depend on the file. -/
def parenthesesMessage : Bytes :=
  utf8 "Possible unmatched parentheses in function definition"

/-- Every other message has its variable part after a colon and a space. -/
theorem needsQuotes_message {files : Files} {path : Bytes} {finding : Finding}
    (reported : Check.Reported files path finding)
    (varies : finding.message ≠ parenthesesMessage) : needsQuotes finding.message = true := by
  rcases reported.message_eq with ⟨rest, message, fixed⟩
  have colon : Bytes.occurs (utf8 ": ") finding.rule.opening = true := by
    cases rule : finding.rule with
    | unmatchedParentheses =>
      rw [fixed rule, rule, List.append_nil] at message
      exact absurd message varies
    | braceMismatch => decide
    | missingSemicolon => decide
    | readError => decide
  have occurs : Bytes.occurs (utf8 ": ") finding.message = true := by
    rw [Bytes.occurs_iff, message]
    exact (Bytes.occurs_iff.mp colon).trans (List.prefix_append _ rest).isInfix
  simp only [needsQuotes, occurs, Bool.or_true, Bool.true_or]

theorem staysOnLine_message {files : Files} {path : Bytes} {finding : Finding}
    (reported : Check.Reported files path finding) : StaysOnLine finding.message := by
  by_cases fixed : finding.message = parenthesesMessage
  · right
    rw [fixed]
    decide
  · exact Or.inl (needsQuotes_message reported fixed)

/-- The results of checking files at paths without line breaks. -/
def FromUnbrokenPaths (results : List FileResult) : Prop :=
  ∀ result ∈ results, ∃ files path, Unbroken path ∧ result = checkFile files path

/-- What the reader needs to know of a result: its path and its messages are on one line. -/
structure Legible (result : FileResult) : Prop where
  file : StaysOnLine result.file
  message : ∀ finding ∈ result.findings, StaysOnLine finding.message

theorem FromUnbrokenPaths.legible {results : List FileResult}
    (checked : FromUnbrokenPaths results) : ∀ result ∈ results, Legible result := by
  intro result member
  rcases checked result member with ⟨files, path, unbroken, rfl⟩
  constructor
  · rw [checkFile_file]
    exact Or.inr unbroken
  · intro finding found
    exact staysOnLine_message (checkFile_reported found)

/-! ## The lines of a report -/

def findingLines (finding : Finding) : List YamlLine :=
  (.rule, scalar finding.rule.id) ::
    (if 0 < finding.line then [(.line, decimal finding.line)] else []) ++
    [(.message, scalar finding.message)]

def fileLines (result : FileResult) : List YamlLine :=
  (.path, scalar result.file) :: (.findings, []) :: result.findings.flatMap findingLines

/-- A report line by line. Every scalar has a line of its own. -/
def yamlLines (results : List FileResult) : List YamlLine :=
  (.checked, decimal results.length) ::
    if (unclean results).isEmpty then
      [(.files, utf8 " []")]
    else
      (.files, []) :: (unclean results).flatMap fileLines

/-- A line with its end. -/
def endedLine (line : YamlLine) : Bytes :=
  line.bytes ++ [Check.lineFeed]

theorem yamlFinding_eq_lines (finding : Finding) :
    yamlFinding finding = (findingLines finding).flatMap endedLine := by
  have feed : utf8 "\n" = [Check.lineFeed] := by decide
  by_cases hasLine : 0 < finding.line <;>
    simp [yamlFinding, findingLines, hasLine, endedLine, YamlLine.bytes, YamlLabel.text, feed]

theorem yamlFile_eq_lines (result : FileResult) :
    yamlFile result = (fileLines result).flatMap endedLine := by
  have mark : utf8 "\n  findings:\n" =
      [Check.lineFeed] ++ (utf8 "  findings:" ++ [Check.lineFeed]) := by decide
  have rows : (fun finding => (findingLines finding).flatMap endedLine) = yamlFinding :=
    funext fun finding => (yamlFinding_eq_lines finding).symm
  rw [yamlFile, mark, fileLines, List.flatMap_cons, List.flatMap_cons, List.flatMap_assoc, rows]
  simp only [endedLine, YamlLine.bytes, YamlLabel.text, List.append_assoc, List.append_nil]

theorem yaml_eq_lines (results : List FileResult) :
    yaml results = (yamlLines results).flatMap endedLine := by
  have feed : utf8 "\n" = [Check.lineFeed] := by decide
  have noFiles : utf8 "files: []\n" = endedLine (.files, utf8 " []") := by decide
  have someFiles : utf8 "files:\n" = endedLine (.files, []) := by decide
  have blocks : (fun result => (fileLines result).flatMap endedLine) = yamlFile :=
    funext fun result => (yamlFile_eq_lines result).symm
  have count : endedLine (.checked, decimal results.length) =
      utf8 "checked: " ++ decimal results.length ++ utf8 "\n" := by
    rw [feed]
    rfl
  have listed : (results.filter fun result => !result.clean) = unclean results := rfl
  rw [yaml, yamlLines, List.flatMap_cons, count, listed]
  by_cases empty : (unclean results).isEmpty = true
  · rw [if_pos empty, if_pos empty, List.flatMap_singleton, noFiles]
  · rw [if_neg empty, if_neg empty, List.flatMap_cons, List.flatMap_assoc, blocks, someFiles]

theorem yaml_eq_unlines (results : List FileResult) :
    yaml results = unlines ((yamlLines results).map YamlLine.bytes) := by
  rw [yaml_eq_lines, unlines, List.flatMap_map]
  rfl

/-! ## Every line is unbroken -/

theorem unbroken_findingLines {finding : Finding} (stays : StaysOnLine finding.message) :
    ∀ line ∈ findingLines finding, Unbroken line.2 := by
  intro line member
  rcases List.mem_append.mp member with front | last
  · rcases List.mem_cons.mp front with rule | number
    · rw [rule]
      exact (staysOnLine_ruleId finding.rule).unbroken_scalar
    · split at number
      · rw [List.mem_singleton.mp number]
        exact unbroken_decimal finding.line
      · exact absurd number List.not_mem_nil
  · rw [List.mem_singleton.mp last]
    exact stays.unbroken_scalar

theorem unbroken_fileLines {result : FileResult} (legible : Legible result) :
    ∀ line ∈ fileLines result, Unbroken line.2 := by
  intro line member
  rcases List.mem_cons.mp member with path | later
  · rw [path]
    exact legible.file.unbroken_scalar
  · rcases List.mem_cons.mp later with mark | inFindings
    · rw [mark]
      decide
    · rcases List.mem_flatMap.mp inFindings with ⟨finding, listed, inside⟩
      exact unbroken_findingLines (legible.message finding listed) line inside

theorem unbroken_yamlLines {results : List FileResult}
    (legible : ∀ result ∈ results, Legible result) :
    ∀ line ∈ yamlLines results, Unbroken line.bytes := by
  have scalars : ∀ line ∈ yamlLines results, Unbroken line.2 := by
    intro line member
    rcases List.mem_cons.mp member with count | later
    · rw [count]
      exact unbroken_decimal results.length
    · split at later
      · rw [List.mem_singleton.mp later]
        decide
      · rcases List.mem_cons.mp later with mark | inFiles
        · rw [mark]
          decide
        · rcases List.mem_flatMap.mp inFiles with ⟨result, listed, inside⟩
          exact unbroken_fileLines (legible result (mem_of_mem_unclean listed)) line inside
  intro line member
  have label : Unbroken line.1.text := by
    cases line.1 <;> decide
  exact label.append (scalars line member)

theorem lineFeed_not_mem_yamlLines {results : List FileResult}
    (legible : ∀ result ∈ results, Legible result) :
    ∀ line ∈ (yamlLines results).map YamlLine.bytes, Check.lineFeed ∉ line := by
  intro line member
  rcases List.mem_map.mp member with ⟨original, listed, rfl⟩
  intro feed
  exact unbroken_yamlLines legible original listed _ feed (by decide)

/-! ## The round trip -/

theorem readEntries_findingLines {finding : Finding} (stays : StaysOnLine finding.message)
    {rest : List YamlLine} {rows : List YamlRow} {files : List (Bytes × List YamlRow)}
    (later : readEntries rest = some (rows, files)) :
    readEntries (findingLines finding ++ rest) = some (yamlRow finding :: rows, files) := by
  have rule := (staysOnLine_ruleId finding.rule).readScalar?_scalar
  have message := stays.readScalar?_scalar
  unfold findingLines
  by_cases hasLine : 0 < finding.line
  · have number := readCount?_decimal finding.line
    simp [hasLine, readEntries, rule, message, number, later, yamlRow]
  · simp [hasLine, readEntries, rule, message, later, yamlRow]

theorem readEntries_findings {findings : List Finding}
    (stay : ∀ finding ∈ findings, StaysOnLine finding.message)
    {rest : List YamlLine} {files : List (Bytes × List YamlRow)}
    (later : readEntries rest = some ([], files)) :
    readEntries (findings.flatMap findingLines ++ rest) =
      some (findings.map yamlRow, files) := by
  induction findings with
  | nil => exact later
  | cons finding others inductionHypothesis =>
    have read := inductionHypothesis fun other member => stay other (List.mem_cons_of_mem _ member)
    rw [List.flatMap_cons, List.append_assoc]
    exact readEntries_findingLines (stay finding List.mem_cons_self) read

theorem readEntries_fileLines {results : List FileResult}
    (legible : ∀ result ∈ results, Legible result) :
    readEntries (results.flatMap fileLines) =
      some ([], results.map fun result => (result.file, result.findings.map yamlRow)) := by
  induction results with
  | nil => rfl
  | cons result others inductionHypothesis =>
    have here := legible result List.mem_cons_self
    have later := inductionHypothesis
      fun other member => legible other (List.mem_cons_of_mem _ member)
    have rows := readEntries_findings here.message later
    rw [List.flatMap_cons, fileLines, List.cons_append, List.cons_append, readEntries,
      here.file.readScalar?_scalar, rows]
    rfl

theorem ofLines?_yamlLines {results : List FileResult}
    (legible : ∀ result ∈ results, Legible result) :
    YamlDocument.ofLines? (yamlLines results) = some (yamlDocument results) := by
  have count := readCount?_decimal results.length
  unfold yamlLines
  by_cases empty : (unclean results).isEmpty = true
  · have nothing : unclean results = [] := List.isEmpty_iff.mp empty
    have mark : utf8 " []" ≠ [] := by decide
    simp [YamlDocument.ofLines?, count, mark, yamlDocument, nothing]
  · have entries := readEntries_fileLines fun result (member : result ∈ unclean results) =>
      legible result (mem_of_mem_unclean member)
    simp [YamlDocument.ofLines?, count, empty, entries, yamlDocument]

/-- The reader gets the document of the results back. -/
theorem read?_yaml {results : List FileResult} (legible : ∀ result ∈ results, Legible result) :
    YamlDocument.read? (yaml results) = some (yamlDocument results) := by
  have oneLine := lineFeed_not_mem_yamlLines legible
  have labelled : ((yamlLines results).map YamlLine.bytes).mapM readLine? =
      some (yamlLines results) := by
    have each := Sarif.mapM_map_of_forall readLine?_bytes (yamlLines results)
    rwa [List.map_id'] at each
  rw [YamlDocument.read?, yaml_eq_unlines, endedLines?_unlines oneLine]
  simp only [Option.bind_eq_bind, Option.bind_some, labelled, ofLines?_yamlLines legible]

/-! ## From the document to the results -/

/-- The finding of a row in the entry of a file. The rule is found by its name. -/
def YamlRow.finding (file : Bytes) (row : YamlRow) : Finding where
  file := file
  line := row.line?.getD 0
  rule := (Rule.all.find? fun rule => rule.id = row.rule).getD .readError
  message := row.message

def YamlDocument.results (document : YamlDocument) : List FileResult :=
  document.files.map fun file => ⟨file.1, file.2.map (YamlRow.finding file.1)⟩

theorem line?_getD_yamlRow (finding : Finding) : (yamlRow finding).line?.getD 0 = finding.line := by
  unfold yamlRow
  split
  · rfl
  · next noLine => exact (Nat.eq_zero_of_not_pos noLine).symm

theorem finding_yamlRow (finding : Finding) : (yamlRow finding).finding finding.file = finding := by
  have line := line?_getD_yamlRow finding
  have named : (Rule.all.find? fun rule => rule.id = finding.rule.id).getD .readError =
      finding.rule := by
    cases finding.rule <;> decide
  calc (yamlRow finding).finding finding.file
      = { file := finding.file, line := (yamlRow finding).line?.getD 0,
          rule := (Rule.all.find? fun rule => rule.id = finding.rule.id).getD .readError,
          message := finding.message } := rfl
    _ = finding := by rw [line, named]

/-- The document tells the results with findings, because their findings name their file. -/
theorem results_yamlDocument {results : List FileResult} (checked : FromUnbrokenPaths results) :
    (yamlDocument results).results = unclean results := by
  have each : ∀ result ∈ unclean results,
      FileResult.mk result.file ((result.findings.map yamlRow).map (YamlRow.finding result.file)) =
        result := by
    intro result member
    rcases checked result (mem_of_mem_unclean member) with ⟨files, path, _, rfl⟩
    have back : ∀ finding ∈ (checkFile files path).findings,
        (yamlRow finding).finding (checkFile files path).file = finding := by
      intro finding found
      rw [← checkFile_finding_file found]
      exact finding_yamlRow finding
    rw [List.map_map]
    exact congrArg (FileResult.mk _) ((List.map_congr_left back).trans (List.map_id' _))
  rw [YamlDocument.results, yamlDocument, List.map_map]
  exact (List.map_congr_left each).trans (List.map_id' _)

/-- The YAML report of files at paths without line breaks is lossless, whatever the files hold.
It has a line for every scalar. Every message is quoted, except the one that is the same for all
files. Reading the report line by line gives back the number of files and the path of every file
with findings, with the rule, the line and the message of each of them. So two lists of results
with the same report have the same length and the same results with findings. -/
theorem yaml_report_is_lossless (results : List FileResult)
    (checked : FromUnbrokenPaths results) :
    Check.lines (yaml results) = (yamlLines results).map YamlLine.bytes ++ [[]] ∧
      (∀ line ∈ yamlLines results, Unbroken line.bytes) ∧
      (∀ result ∈ results, ∀ finding ∈ result.findings, finding.message ≠ parenthesesMessage →
        scalar finding.message = Quoted.encode finding.message) ∧
      (∃ document, YamlDocument.read? (yaml results) = some document ∧
        document.checked = results.length ∧
        document.files.map (fun file =>
          (file.1, file.2.map fun row => (row.rule, row.line?.getD 0, row.message))) =
        (unclean results).map fun result =>
          (result.file, result.findings.map fun finding =>
            (finding.rule.id, finding.line, finding.message))) ∧
      ∀ others, FromUnbrokenPaths others → yaml others = yaml results →
        others.length = results.length ∧ unclean others = unclean results := by
  refine ⟨?_, unbroken_yamlLines checked.legible, ?_,
    ⟨yamlDocument results, read?_yaml checked.legible, rfl, ?_⟩, ?_⟩
  · rw [yaml_eq_unlines]
    exact lines_unlines (lineFeed_not_mem_yamlLines checked.legible)
  · intro result member finding found varies
    rcases checked result member with ⟨files, path, _, rfl⟩
    exact scalar_of_needsQuotes (needsQuotes_message (checkFile_reported found) varies)
  · have row : ∀ finding, ((yamlRow finding).rule, (yamlRow finding).line?.getD 0,
        (yamlRow finding).message) = (finding.rule.id, finding.line, finding.message) := by
      intro finding
      rw [line?_getD_yamlRow]
      rfl
    simp only [yamlDocument, List.map_map, Function.comp_def, row]
  · intro others othersChecked same
    have document : yamlDocument others = yamlDocument results := by
      have read := read?_yaml othersChecked.legible
      rw [same, read?_yaml checked.legible] at read
      exact (Option.some.inj read).symm
    refine ⟨congrArg YamlDocument.checked document, ?_⟩
    rw [← results_yamlDocument othersChecked, document, results_yamlDocument checked]

/-- A path that looks like a mapping, and a line with a quote, a backslash, a carriage return and
another control character. -/
def awkwardFiles : Memory :=
  Memory.put {} (utf8 "a: b.php") (utf8 "return \"\\\x0d\x01;x\n")

def awkwardResults : List FileResult :=
  [checkFile awkwardFiles.view (utf8 "a: b.php"), checkFile awkwardFiles.view (utf8 "gone.php")]

theorem yaml_report_is_lossless_on_awkward_files :
    FromUnbrokenPaths awkwardResults ∧
      ∃ document, YamlDocument.read? (yaml awkwardResults) = some document ∧
        document.checked = 2 := by
  have checked : FromUnbrokenPaths awkwardResults := by
    intro result member
    rcases List.mem_cons.mp member with first | later
    · exact ⟨awkwardFiles.view, utf8 "a: b.php", by decide, first⟩
    · exact ⟨awkwardFiles.view, utf8 "gone.php", by decide, List.mem_singleton.mp later⟩
  rcases yaml_report_is_lossless awkwardResults checked with
    ⟨_, _, _, ⟨document, read, count, _⟩, _⟩
  exact ⟨checked, document, read, count⟩

end Report
end PhpLint
