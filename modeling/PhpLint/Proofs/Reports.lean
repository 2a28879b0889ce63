import Mathlib.Data.List.Forall2
import PhpLint.Files.Memory
import PhpLint.Proofs.Bytes
import PhpLint.Proofs.Run

namespace PhpLint

/-!
# The documents of the three reports

The reports are written independently of each other: the text while the files
are checked, the others from the list of results at the end. Each of them is
described here as a document with its own structure, together with what it means
that the document describes a list of results.
-/

theorem Rule.mem_all (rule : Rule) : rule ∈ Rule.all := by
  cases rule <;> decide

/-- The text report has two names. -/
theorem ReportFormat.ofName?_of_text {name : Bytes} (isText : name ∈ [[], utf8 "text"]) :
    ofName? name = some .text := by
  rcases List.mem_cons.mp isText with rfl | later
  · rfl
  · rw [List.mem_singleton.mp later]
    decide

namespace Report

/-- The results that a reader has to look at. -/
def unclean (results : List FileResult) : List FileResult :=
  results.filter fun result => !result.clean

theorem mem_of_mem_unclean {results : List FileResult} {result : FileResult}
    (member : result ∈ unclean results) : result ∈ results :=
  List.mem_of_mem_filter member

/-- The text of some lines. -/
def unlines (lines : List Bytes) : Bytes :=
  lines.flatMap fun line => line ++ [Check.lineFeed]

theorem lines_unlines {lines : List Bytes} (oneLine : ∀ line ∈ lines, Check.lineFeed ∉ line) :
    Check.lines (unlines lines) = lines ++ [[]] :=
  Bytes.split_flatMap_concat oneLine

/-! ## Text -/

/-- A block for every file, which has a heading and a line a finding, and a summary. -/
structure TextDocument where
  blocks : List (Bytes × List Bytes)
  summary : Bytes

def TextDocument.bytes (document : TextDocument) : Bytes :=
  (document.blocks.flatMap fun block =>
    utf8 "\n" ++ block.1 ++ utf8 ":\n" ++
      block.2.flatMap fun line => utf8 "  - " ++ line ++ utf8 "\n") ++ document.summary

/-- The blocks are those of the results with findings, in order, and the summary is that of the
verdict. -/
structure TextDocument.Describes (document : TextDocument) (coloured failed : Bool)
    (results : List FileResult) : Prop where
  blocks : List.Forall₂ (fun block result => block.1 = paint coloured .yellow result.file ∧
    block.2 = result.findings.map Finding.text) document.blocks (unclean results)
  summary : document.summary = textSummary coloured failed

/-! ## SARIF -/

/-- The rule, the message and the file are those of the finding. The level tells read errors from
other findings, and there is a line exactly if the finding has one. -/
structure SarifResult.Describes (result : SarifResult) (finding : Finding) : Prop where
  rule : result.rule.id = finding.rule.id
  message : result.message = finding.message
  uri : result.uri = finding.file
  level : result.level = .error ↔ finding.rule = .readError
  region : result.startLine?.isSome ↔ 0 < finding.line
  startLine : ∀ line, result.startLine? = some line → line = finding.line ∧ 1 ≤ line

/-- The results are the findings of all files in order, and their rules are declared. -/
structure SarifLog.Describes (log : SarifLog) (version : Bytes) (results : List FileResult) :
    Prop where
  version : log.toolVersion = version
  results : List.Forall₂ SarifResult.Describes log.results (results.flatMap FileResult.findings)
  declared : ∀ result ∈ log.results, result.rule.id ∈ log.rules.map Rule.id

/-! ## YAML -/

structure YamlRow where
  rule : Bytes
  line? : Option Nat
  message : Bytes

/-- The number of files that have been checked, and the rows of every file that is listed. -/
structure YamlDocument where
  checked : Nat
  files : List (Bytes × List YamlRow)

def YamlRow.bytes (row : YamlRow) : Bytes :=
  utf8 "  - rule: " ++ scalar row.rule ++ utf8 "\n" ++
    row.line?.elim [] (fun line => utf8 "    line: " ++ decimal line ++ utf8 "\n") ++
    utf8 "    message: " ++ scalar row.message ++ utf8 "\n"

def YamlDocument.bytes (document : YamlDocument) : Bytes :=
  utf8 "checked: " ++ decimal document.checked ++ utf8 "\n" ++
    if document.files.isEmpty then
      utf8 "files: []\n"
    else
      utf8 "files:\n" ++ document.files.flatMap fun file =>
        utf8 "- path: " ++ scalar file.1 ++ utf8 "\n  findings:\n" ++
          file.2.flatMap YamlRow.bytes

structure YamlRow.Describes (row : YamlRow) (finding : Finding) : Prop where
  rule : row.rule = finding.rule.id
  message : row.message = finding.message
  line : row.line? = if 0 < finding.line then some finding.line else none

/-- All files are counted, and those with findings are listed in order with their findings. -/
structure YamlDocument.Describes (document : YamlDocument) (results : List FileResult) :
    Prop where
  checked : document.checked = results.length
  files : List.Forall₂ (fun file result => file.1 = result.file ∧
    List.Forall₂ YamlRow.Describes file.2 result.findings) document.files (unclean results)

/-! ## The documents of some results -/

def textDocument (coloured failed : Bool) (results : List FileResult) : TextDocument where
  blocks := (unclean results).map fun result =>
    (paint coloured .yellow result.file, result.findings.map Finding.text)
  summary := textSummary coloured failed

theorem textDocument_describes (coloured failed : Bool) (results : List FileResult) :
    (textDocument coloured failed results).Describes coloured failed results where
  blocks := by
    rw [textDocument, List.forall₂_map_left_iff]
    exact List.forall₂_same.mpr fun result _ => ⟨rfl, rfl⟩
  summary := rfl

theorem textDocument_bytes (coloured failed : Bool) (results : List FileResult) :
    (textDocument coloured failed results).bytes =
      (unclean results).flatMap (textBlock coloured) ++ textSummary coloured failed := by
  simp only [TextDocument.bytes, textDocument, List.flatMap_map]
  rfl

theorem sarifResult_describes (finding : Finding) : (sarifResult finding).Describes finding where
  rule := rfl
  message := rfl
  uri := rfl
  level := by
    by_cases unreadable : finding.rule = .readError <;> simp [sarifResult, unreadable]
  region := by
    by_cases hasLine : 0 < finding.line <;> simp [sarifResult, hasLine]
  startLine := by
    intro line found
    simp only [sarifResult] at found
    split at found
    · next hasLine =>
      cases found
      exact ⟨rfl, hasLine⟩
    · cases found

theorem sarifLog_describes (version : Bytes) (results : List FileResult) :
    (sarifLog version results).Describes version results where
  version := rfl
  results := by
    have flat : (sarifLog version results).results =
        (results.flatMap FileResult.findings).map sarifResult := List.map_flatMap.symm
    rw [flat, List.forall₂_map_left_iff]
    exact List.forall₂_same.mpr fun finding _ => sarifResult_describes finding
  declared := fun result _ => List.mem_map_of_mem (Rule.mem_all result.rule)

def yamlRow (finding : Finding) : YamlRow where
  rule := finding.rule.id
  line? := if 0 < finding.line then some finding.line else none
  message := finding.message

def yamlDocument (results : List FileResult) : YamlDocument where
  checked := results.length
  files := (unclean results).map fun result => (result.file, result.findings.map yamlRow)

theorem yamlDocument_describes (results : List FileResult) :
    (yamlDocument results).Describes results where
  checked := rfl
  files := by
    rw [yamlDocument, List.forall₂_map_left_iff]
    refine List.forall₂_same.mpr fun result _ => ⟨rfl, ?_⟩
    rw [List.forall₂_map_left_iff]
    exact List.forall₂_same.mpr fun finding _ => ⟨rfl, rfl, rfl⟩

theorem yamlRow_bytes (finding : Finding) : (yamlRow finding).bytes = yamlFinding finding := by
  by_cases hasLine : 0 < finding.line <;>
    simp [YamlRow.bytes, yamlRow, yamlFinding, hasLine]

theorem yamlDocument_bytes (results : List FileResult) :
    (yamlDocument results).bytes = yaml results := by
  have rows : (fun finding => (yamlRow finding).bytes) = yamlFinding := funext yamlRow_bytes
  simp only [YamlDocument.bytes, yamlDocument, yaml, List.isEmpty_map, List.flatMap_map, rows]
  rfl

/-! ## The whole report -/

/-- All that is written about some results. -/
def whole (format : ReportFormat) (options : RunOptions) (results : List FileResult) : Bytes :=
  match format with
  | .text => (unclean results).flatMap (textBlock options.coloured) ++
      textSummary options.coloured (Run.verdict? results = some .issuesFound)
  | .sarif => sarif options.version results
  | .yaml => yaml results

end Report

namespace Run

variable {files : Files} {config : Config} {options : RunOptions} {context : RunContext}
  {format : ReportFormat}

/-- What is written on the way and at the end is the report. -/
theorem written_eq_whole (writable : context.writable = true) (results : List FileResult) :
    results.flatMap (writtenAtOnce format options context) ++
        (finish format options context (gathered format options context results)).1 =
      Report.whole format options results := by
  cases format with
  | text =>
    rw [flatMap_writtenAtOnce_text writable, Report.whole, decide_verdict?]
    simp only [finish, writable, if_true]
    rfl
  | sarif | yaml =>
    rw [flatMap_writtenAtOnce_of_ne_text (by decide)]
    simp only [finish, writable, if_true]
    rfl

/-- A run that checks all its files, with an output that can be written, writes the report and
gives the verdict. -/
theorem run_writes_whole {paths : List Bytes} (writable : context.writable = true)
    (named : ReportFormat.ofName? options.format = some format)
    (resolved : targets? files config options = some paths)
    (allowed : Allows context paths.length) :
    let results := paths.map (checkFile files)
    run files config options context = some
      { output := Report.whole format options results
        error? := verdict? results
        entries := loggedEntries files config options paths } := by
  intro results
  rw [run_of_allows named resolved allowed, written_eq_whole writable, finish_of_writable writable,
    Option.none_or]

end Run

/-! ## Files of all kinds -/

/-- A file without findings and one with two of them. A third one will be asked for in vain. -/
def mixedFiles : Memory :=
  Memory.put (Memory.put {} (utf8 "a.php") []) (utf8 "b.php") (utf8 "\x7b\nreturn 1\n")

def mixedOptions : RunOptions where
  paths := [utf8 "a.php", utf8 "b.php", utf8 "gone.php"]
  version := utf8 "1"

end PhpLint
