import PhpLint.Proofs.TextReport
import PhpLint.Proofs.YamlReport

namespace PhpLint

/-!
# What the three reports of a run say

The reports of a run are taken for what a reader gets out of them. The text is given line
by line in full. A reader of JSON finds in the SARIF report a log with one result for every
finding, and a reader of lines finds in the YAML report the number of files and the
findings of those that have some. So the three reports tell of the same findings in the
same order, and they come with the same verdict, which the text ends with in words.
-/

namespace Report

/-! ## Text -/

/-- A text with the codes around it that switch a colour on and off. -/
def between (coloured : Bool) (code : String) (text : Bytes) : Bytes :=
  if coloured then utf8 code ++ text ++ utf8 "\x1b[0m" else text

/-- The line of a finding. -/
def spelledFinding (finding : Finding) : Bytes :=
  utf8 "  - " ++
    (if finding.line = 0 then [] else utf8 "Line " ++ decimal finding.line ++ utf8 ": ") ++
    finding.message

/-- The lines of a text report: for every file with findings an empty line, the path and a line a
finding, and then the verdict. -/
def spelledLines (coloured failed : Bool) (results : List FileResult) : List Bytes :=
  ((unclean results).flatMap fun result =>
    [] :: (between coloured "\x1b[33m" result.file ++ utf8 ":") ::
      result.findings.map spelledFinding) ++
  if failed then
    [[], between coloured "\x1b[31m"
      (utf8 "❌ Syntax issues found. Please review the files above.")]
  else
    [between coloured "\x1b[32m" (utf8 "✅ No syntax issues detected in checked files!")]

theorem spelledFinding_eq (finding : Finding) :
    spelledFinding finding = utf8 "  - " ++ finding.text := by
  unfold spelledFinding Finding.text
  by_cases hasLine : 0 < finding.line
  · rw [if_neg (Nat.ne_of_gt hasLine), if_pos hasLine, List.append_assoc (utf8 "  - ")]
  · rw [if_pos (Nat.eq_zero_of_not_pos hasLine), if_neg hasLine, List.append_nil]

theorem blockLines_eq (coloured : Bool) (result : FileResult) :
    blockLines coloured result = (between coloured "\x1b[33m" result.file ++ utf8 ":") ::
      result.findings.map spelledFinding := by
  rw [blockLines, funext spelledFinding_eq]
  rfl

theorem summaryLines_eq (coloured failed : Bool) :
    summaryLines coloured failed =
      if failed then
        [[], between coloured "\x1b[31m"
          (utf8 "❌ Syntax issues found. Please review the files above.")]
      else
        [between coloured "\x1b[32m" (utf8 "✅ No syntax issues detected in checked files!")] := by
  cases failed with
  | true => rfl
  | false => rfl

/-- The blocks and the summary have the lines of the report. -/
theorem text_eq_spelledLines (coloured failed : Bool) (results : List FileResult) :
    (unclean results).flatMap (textBlock coloured) ++ textSummary coloured failed =
      unlines (spelledLines coloured failed results) := by
  rw [blocks_eq_unlines, textSummary_eq_unlines, spelledLines, ← summaryLines_eq, blocksLines,
    funext (blockLines_eq coloured)]
  exact List.flatMap_append.symm

end Report

/-! ## SARIF -/

/-- What a text becomes in JSON: what is encoded stays as it is, and elsewhere each byte at which
no character is encoded is replaced. -/
structure Utf8.SeenAs (text seen : Bytes) : Prop where
  replaced : Replaced text seen
  unchanged : (∃ characters, text = encode characters) → seen = text

theorem Utf8.seenAs_readable (text : Bytes) : SeenAs text (readable text) :=
  ⟨replaced_readable text, (readable_eq_iff text).mpr⟩

namespace Sarif

/-- The rule, the message and the file are those of the finding. The level tells read errors from
other findings. There is one place, with a line exactly if the finding has one. -/
structure Result.Describes (result : Result) (finding : Finding) : Prop where
  ruleId : result.ruleId = finding.rule.id
  message : Utf8.SeenAs finding.message result.message
  level : result.level = utf8 "error" ↔ finding.rule = .readError
  place : ∃ uri startLine?, result.places = [⟨uri, startLine?⟩] ∧ Utf8.SeenAs finding.file uri ∧
    (startLine?.isSome ↔ 0 < finding.line) ∧
    ∀ line, startLine? = some line → line = finding.line ∧ 1 ≤ line

/-- There is a result for every finding in order, and the rules of the results are declared. -/
structure Run.Describes (run : Run) (findings : List Finding) : Prop where
  results : List.Forall₂ Result.Describes run.results findings
  declared : ∀ result ∈ run.results, result.ruleId ∈ run.rules.map RuleEntry.id

theorem ofFinding_describes (finding : Finding) : (Result.ofFinding finding).Describes finding where
  ruleId := rfl
  message := Utf8.seenAs_readable finding.message
  level := by
    have different : utf8 "warning" ≠ utf8 "error" := by decide
    by_cases unreadable : finding.rule = .readError <;>
      simp [Result.ofFinding, unreadable, different]
  place := by
    refine ⟨_, _, rfl, Utf8.seenAs_readable finding.file, ?_, ?_⟩
    · by_cases noLine : finding.line = 0 <;> simp [noLine, Nat.pos_iff_ne_zero]
    · intro line found
      split at found
      · cases found
      · next hasLine =>
        cases found
        exact ⟨rfl, Nat.pos_of_ne_zero hasLine⟩

/-- The log of some findings has one run, which describes them. -/
theorem ofFindings_describes (version : Bytes) (findings : List Finding) :
    ∃ run, (Log.ofFindings version findings).runs = [run] ∧ run.Describes findings := by
  refine ⟨_, rfl, ?_, ?_⟩
  · rw [List.forall₂_map_left_iff]
    exact List.forall₂_same.mpr fun finding _ => ofFinding_describes finding
  · intro result member
    rcases List.mem_map.mp member with ⟨finding, _, rfl⟩
    rw [List.map_map]
    exact List.mem_map_of_mem (Rule.mem_all finding.rule)

end Sarif

open Report

/-! ## Runs -/

section

variable {files : Files} {config : Config} {options : RunOptions} {paths : List Bytes}

/-- Whatever its name, the format only decides in which way the results are written. -/
theorem run_in_format (resolved : Run.targets? files config options = some paths) {name : Bytes}
    {format : ReportFormat} (named : ReportFormat.ofName? name = some format) :
    let results := paths.map (checkFile files)
    run files config { options with format := name } {} = some
      { output := whole format options results
        error? := Run.verdict? results
        entries := Run.loggedEntries files config options paths } :=
  Run.run_writes_whole rfl named resolved (Run.allows_of_never rfl paths.length)

/-- Without colours, the results with findings can be read from the text. -/
theorem readReport_run_text (resolved : Run.targets? files config options = some paths)
    (plain : options.coloured = false) (brings : files.BringsNo Check.lineFeed)
    (oneLine : ∀ path ∈ paths, Check.lineFeed ∉ path) {outcome : RunOutcome}
    (ran : run files config { options with format := utf8 "text" } {} = some outcome) :
    readReport outcome.output = unclean (paths.map (checkFile files)) := by
  have isText : ReportFormat.ofName? (utf8 "text") = some .text := by decide
  have uncancelled : outcome.error? ≠ some .cancelled := by
    rw [run_in_format resolved isText] at ran
    cases ran
    simp only [Run.verdict?]
    split <;> simp
  have completed : CompletedTextRun files config { options with format := utf8 "text" } {} paths
      outcome := ⟨isText, plain, rfl, resolved, ran, uncancelled⟩
  exact completed.readReport_output brings oneLine

end

/-- The log of some findings can be read from the SARIF report, and it has one run, which describes
them. -/
theorem Sarif.describes_sarif (version : Bytes) (results : List FileResult) :
    ∃ body log only, Report.sarif version results = body ++ utf8 "\n" ∧
      (Json.read? body).bind Log.ofJson? = some log ∧
      log = Log.ofFindings version (results.flatMap FileResult.findings) ∧
      log.runs = [only] ∧ only.Describes (results.flatMap FileResult.findings) := by
  rcases ofFindings_describes version (results.flatMap FileResult.findings) with
    ⟨only, isOnly, describes⟩
  refine ⟨_, _, only, rfl, ?_, rfl, isOnly, describes⟩
  rw [Json.read?_render, Option.bind_some]
  exact log_ofJson?_toJson version results

/-- With a search that succeeds, no cancellation and an output that can be written, the reports of
a run agree. The text, SARIF and YAML formats end with the same verdict, which says that issues
have been found exactly if one of the files has a finding.

The text has its lines for the files with findings in order, and then the verdict. Unless it is
coloured, or line feeds come from the paths or from what the files say about them, these files and
their findings can be read from it. The SARIF report is written from a log with a result for every
finding of every file in order, and a reader of JSON finds these results in it. The YAML report
counts the files and lists those with findings in order. Their rules and messages can be read from
it in any case, and the whole of it line by line unless a path has a line break. -/
theorem reports_agree (files : Files) (config : Config) (options : RunOptions)
    (paths : List Bytes) (resolved : Run.targets? files config options = some paths) :
    let results := paths.map (checkFile files)
    let findings := results.flatMap FileResult.findings
    ∃ text sarif yaml : RunOutcome,
      (∀ name ∈ [[], utf8 "text"],
        run files config { options with format := name } {} = some text) ∧
      run files config { options with format := utf8 "sarif" } {} = some sarif ∧
      run files config { options with format := utf8 "yaml" } {} = some yaml ∧
      text.error? = sarif.error? ∧ sarif.error? = yaml.error? ∧
      (text.error? = some .issuesFound ↔ ∃ result ∈ results, result.findings ≠ []) ∧
      (text.error? = none ↔ ∀ result ∈ results, result.findings = []) ∧
      text.output =
        unlines (spelledLines options.coloured (text.error? = some .issuesFound) results) ∧
      (options.coloured = false → files.BringsNo Check.lineFeed →
        (∀ path ∈ paths, Check.lineFeed ∉ path) → readReport text.output = unclean results) ∧
      (∃ log : SarifLog, sarif.output = log.toJson.document ∧
        log.Describes options.version results) ∧
      (∃ body log only, sarif.output = body ++ utf8 "\n" ∧
        (Json.read? body).bind Sarif.Log.ofJson? = some log ∧
        log = Sarif.Log.ofFindings options.version findings ∧
        log.runs = [only] ∧ only.Describes findings) ∧
      yaml.output = (yamlDocument results).bytes ∧ (yamlDocument results).Describes results ∧
      (∀ finding ∈ findings, readScalar? (scalar finding.rule.id) = some finding.rule.id ∧
        readScalar? (scalar finding.message) = some finding.message) ∧
      ((∀ path ∈ paths, Unbroken path) →
        YamlDocument.read? yaml.output = some (yamlDocument results)) := by
  intro results findings
  have checked : ∀ finding ∈ findings, ∃ path, finding ∈ (checkFile files path).findings := by
    intro finding member
    rcases List.mem_flatMap.mp member with ⟨result, listed, found⟩
    rcases List.mem_map.mp listed with ⟨path, _, rfl⟩
    exact ⟨path, found⟩
  have isText : ReportFormat.ofName? (utf8 "text") = some .text := by decide
  have isSarif : ReportFormat.ofName? (utf8 "sarif") = some .sarif := by decide
  have isYaml : ReportFormat.ofName? (utf8 "yaml") = some .yaml := by decide
  refine ⟨_, _, _, fun _ named => run_in_format resolved (ReportFormat.ofName?_of_text named),
    run_in_format resolved isSarif, run_in_format resolved isYaml, rfl, rfl,
    Run.verdict?_eq_issuesFound_iff results, Run.verdict?_eq_none_iff results,
    text_eq_spelledLines _ _ _, ?_, ⟨_, rfl, sarifLog_describes options.version results⟩,
    Sarif.describes_sarif options.version results, (yamlDocument_bytes results).symm,
    yamlDocument_describes results, ?_, ?_⟩
  · intro plain brings oneLine
    exact readReport_run_text resolved plain brings oneLine (run_in_format resolved isText)
  · intro finding member
    rcases checked finding member with ⟨path, found⟩
    exact ⟨(staysOnLine_ruleId finding.rule).readScalar?_scalar,
      (staysOnLine_message (checkFile_reported found)).readScalar?_scalar⟩
  · intro unbroken
    have fromPaths : FromUnbrokenPaths results := by
      intro result member
      rcases List.mem_map.mp member with ⟨path, listed, rfl⟩
      exact ⟨files, path, unbroken path listed, rfl⟩
    exact read?_yaml fromPaths.legible

/-- The results of the three files, of which the last is missing. -/
def mixedResults : List FileResult := [
  ⟨utf8 "a.php", []⟩,
  ⟨utf8 "b.php", [
    { file := utf8 "b.php", rule := .braceMismatch
      message := utf8 "Brace mismatch: 1 opening, 0 closing" },
    { file := utf8 "b.php", line := 2, rule := .missingSemicolon
      message := utf8 "Missing semicolon after return statement: return 1" }]⟩,
  ⟨utf8 "gone.php", [
    { file := utf8 "gone.php", rule := .readError
      message := utf8 "Error reading file: open gone.php: file does not exist" }]⟩]

theorem reports_agree_on_mixed_files :
    ∃ (text sarif yaml : RunOutcome) (body : Bytes) (log : Sarif.Log),
      run mixedFiles.view {} { mixedOptions with format := utf8 "text" } {} = some text ∧
      run mixedFiles.view {} { mixedOptions with format := utf8 "sarif" } {} = some sarif ∧
      run mixedFiles.view {} { mixedOptions with format := utf8 "yaml" } {} = some yaml ∧
      text.error? = some .issuesFound ∧ sarif.error? = text.error? ∧ yaml.error? = text.error? ∧
      text.output = unlines [
        [],
        utf8 "b.php:",
        utf8 "  - Brace mismatch: 1 opening, 0 closing",
        utf8 "  - Line 2: Missing semicolon after return statement: return 1",
        [],
        utf8 "gone.php:",
        utf8 "  - Error reading file: open gone.php: file does not exist",
        [],
        utf8 "❌ Syntax issues found. Please review the files above."] ∧
      sarif.output = body ++ utf8 "\n" ∧ (Json.read? body).bind Sarif.Log.ofJson? = some log ∧
      log.runs.map Sarif.Run.results = [[
        ⟨utf8 "brace-mismatch", utf8 "warning", utf8 "Brace mismatch: 1 opening, 0 closing",
          [⟨utf8 "b.php", none⟩]⟩,
        ⟨utf8 "missing-semicolon", utf8 "warning",
          utf8 "Missing semicolon after return statement: return 1", [⟨utf8 "b.php", some 2⟩]⟩,
        ⟨utf8 "read-error", utf8 "error",
          utf8 "Error reading file: open gone.php: file does not exist",
          [⟨utf8 "gone.php", none⟩]⟩]] ∧
      YamlDocument.read? yaml.output = some ⟨3, [
        (utf8 "b.php", [
          ⟨utf8 "brace-mismatch", none, utf8 "Brace mismatch: 1 opening, 0 closing"⟩,
          ⟨utf8 "missing-semicolon", some 2,
            utf8 "Missing semicolon after return statement: return 1"⟩]),
        (utf8 "gone.php", [
          ⟨utf8 "read-error", none,
            utf8 "Error reading file: open gone.php: file does not exist"⟩])]⟩ := by
  have resolved : Run.targets? mixedFiles.view {} mixedOptions = some mixedOptions.paths := rfl
  have results : mixedOptions.paths.map (checkFile mixedFiles.view) = mixedResults := by
    decide +kernel
  have unbroken : ∀ path ∈ mixedOptions.paths, Unbroken path := by
    decide
  rcases reports_agree mixedFiles.view {} mixedOptions mixedOptions.paths resolved with
    ⟨text, sarif, yaml, textRun, sarifRun, yamlRun, same, sameToo, issues, _, lines, _, _,
      ⟨body, log, _, written, read, isLog, _, _⟩, _, _, _, listing⟩
  rw [results] at issues lines isLog listing
  have found : text.error? = some .issuesFound :=
    issues.mpr ⟨_, List.mem_cons_of_mem _ List.mem_cons_self, List.cons_ne_nil _ _⟩
  refine ⟨text, sarif, yaml, body, log, textRun _ (by decide), sarifRun, yamlRun, found, same.symm,
    (same.trans sameToo).symm, ?_, written, read, ?_, listing unbroken⟩
  · rw [lines, found]
    decide +kernel
  · rw [isLog]
    decide +kernel

end PhpLint
