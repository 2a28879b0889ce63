import PhpLint.Proofs.Findings
import PhpLint.Proofs.Reports

namespace PhpLint
namespace Report

/-!
# The text report is unambiguous

The text report has no marks around paths and messages, and still it can be read
back. Paths and messages stay on their lines, and no line of a block is blank, so
blank lines separate the blocks. The first line of a block is the path, with a
colon that no summary ends with. In the other lines a message tells its rule by its
beginning; messages about the whole file begin with other words than those with a
line number, so it can be told whether there is a line number in front.
-/

/-! ## Lines -/

def headingLine (coloured : Bool) (result : FileResult) : Bytes :=
  paint coloured .yellow result.file ++ utf8 ":"

def blockLines (coloured : Bool) (result : FileResult) : List Bytes :=
  headingLine coloured result ::
    result.findings.map fun finding => utf8 "  - " ++ finding.text

def summaryLine (coloured failed : Bool) : Bytes :=
  if failed then
    paint coloured .red (utf8 "❌ Syntax issues found. Please review the files above.")
  else
    paint coloured .green (utf8 "✅ No syntax issues detected in checked files!")

/-- The lines of some blocks, each of which has a blank line in front. -/
def blocksLines (coloured : Bool) (results : List FileResult) : List Bytes :=
  results.flatMap fun result => [] :: blockLines coloured result

/-- A summary of issues has a blank line in front, too. -/
def summaryLines (coloured failed : Bool) : List Bytes :=
  (if failed then [[]] else []) ++ [summaryLine coloured failed]

theorem textBlock_eq_unlines (coloured : Bool) (result : FileResult) :
    textBlock coloured result = unlines ([] :: blockLines coloured result) := by
  have feed : utf8 "\n" = [Check.lineFeed] := by decide
  have headingEnd : utf8 ":\n" = utf8 ":" ++ [Check.lineFeed] := by decide
  have each : findingLine = fun finding => utf8 "  - " ++ finding.text ++ [Check.lineFeed] := by
    funext finding
    rw [findingLine, feed]
  have findings : result.findings.flatMap findingLine =
      unlines (result.findings.map fun finding => utf8 "  - " ++ finding.text) := by
    rw [unlines, List.flatMap_map, each]
  rw [textBlock, findings, feed, headingEnd]
  simp only [unlines, blockLines, headingLine, List.flatMap_cons, List.append_assoc,
    List.nil_append]

theorem blocks_eq_unlines (coloured : Bool) (results : List FileResult) :
    results.flatMap (textBlock coloured) = unlines (blocksLines coloured results) := by
  have blocks : textBlock coloured = fun result => unlines ([] :: blockLines coloured result) :=
    funext (textBlock_eq_unlines coloured)
  rw [blocks, blocksLines, unlines, List.flatMap_assoc]
  rfl

theorem textSummary_eq_unlines (coloured failed : Bool) :
    textSummary coloured failed = unlines (summaryLines coloured failed) := by
  have feed : utf8 "\n" = [Check.lineFeed] := by decide
  cases failed with
  | false => simp [textSummary, summaryLines, summaryLine, unlines, feed]
  | true => simp [textSummary, summaryLines, summaryLine, unlines, feed]

/-! ## No line is broken -/

/-- The path and the messages of a result are on one line each. -/
structure OnLines (result : FileResult) : Prop where
  file : Check.lineFeed ∉ result.file
  message : ∀ finding ∈ result.findings, Check.lineFeed ∉ finding.message

theorem onLines_checkFile {files : Files} {path : Bytes} (brings : files.BringsNo Check.lineFeed)
    (oneLine : Check.lineFeed ∉ path) : OnLines (checkFile files path) := by
  constructor
  · rw [checkFile_file]
    exact oneLine
  · intro finding found
    exact (checkFile_reported found).lineFeed_not_mem_message brings oneLine

theorem lineFeed_not_mem_paint {coloured : Bool} {colour : Colour} {text : Bytes}
    (oneLine : Check.lineFeed ∉ text) : Check.lineFeed ∉ paint coloured colour text := by
  have inCode : Check.lineFeed ∉ colour.code := by cases colour <;> decide
  unfold paint
  split
  · simp only [List.mem_append, not_or]
    exact ⟨⟨inCode, oneLine⟩, by decide⟩
  · exact oneLine

theorem lineFeed_not_mem_text {finding : Finding} (oneLine : Check.lineFeed ∉ finding.message) :
    Check.lineFeed ∉ finding.text := by
  have inNumber : Check.lineFeed ∉ decimal finding.line := lineFeed_not_mem_decimal finding.line
  unfold Finding.text
  split
  · simp only [List.mem_append, not_or]
    exact ⟨⟨⟨by decide, inNumber⟩, by decide⟩, oneLine⟩
  · exact oneLine

theorem lineFeed_not_mem_blocksLines {coloured : Bool} {results : List FileResult}
    (onLines : ∀ result ∈ results, OnLines result) :
    ∀ line ∈ blocksLines coloured results, Check.lineFeed ∉ line := by
  intro line member
  rcases List.mem_flatMap.mp member with ⟨result, listed, inBlock⟩
  have whole := onLines result listed
  rcases List.mem_cons.mp inBlock with blank | inLines
  · rw [blank]
    exact List.not_mem_nil
  · rcases List.mem_cons.mp inLines with heading | finding
    · rw [heading, headingLine, List.mem_append, not_or]
      exact ⟨lineFeed_not_mem_paint whole.file, by decide⟩
    · rcases List.mem_map.mp finding with ⟨reported, found, rfl⟩
      rw [List.mem_append, not_or]
      exact ⟨by decide, lineFeed_not_mem_text (whole.message reported found)⟩

theorem lineFeed_not_mem_summaryLines (coloured failed : Bool) :
    ∀ line ∈ summaryLines coloured failed, Check.lineFeed ∉ line := by
  cases coloured <;> cases failed <;> decide

/-! ## The reader -/

/-- The rule of a message and the message itself, with a line number or without. -/
def finding? (file : Bytes) (line : Nat) (message : Bytes) : Option Finding :=
  (Bytes.label? Rule.opening Rule.all message).map fun (rule, _) =>
    { file := file, line := line, rule := rule, message := message }

/-- The finding of a text: a number and a message after the word for a line, and otherwise a
message. -/
def readFindingText? (file text : Bytes) : Option Finding :=
  match Bytes.after? (utf8 "Line ") text with
  | some numbered =>
    let digits := numbered.takeWhile Numeral.isDecimalDigit
    (Bytes.after? (utf8 ": ") (numbered.dropWhile Numeral.isDecimalDigit)).bind
      (finding? file (Numeral.value 10 digits))
  | none => finding? file 0 text

/-- The result of a block. A first line without a colon at its end is a summary and no path. -/
def readBlock? : List Bytes → Option FileResult
  | [] => none
  | heading :: findings =>
    if heading.getLast? = some (Bytes.ascii ':') then
      let file := heading.dropLast
      some ⟨file, findings.filterMap fun line =>
        (Bytes.after? (utf8 "  - ") line).bind (readFindingText? file)⟩
    else
      none

/-- The results of a report, whose blocks stand between blank lines. -/
def readReport (report : Bytes) : List FileResult :=
  ((Check.lines report).splitOn []).filterMap readBlock?

/-! ## Reading findings -/

theorem finding?_eq {files : Files} {path : Bytes} {finding : Finding}
    (reported : Check.Reported files path finding) :
    finding? finding.file finding.line finding.message = some finding := by
  rcases reported.message_eq with ⟨rest, message, _⟩
  have found := Bytes.label?_append Rule.eq_of_opening_prefix (Rule.mem_all finding.rule) rest
  rw [← message] at found
  rw [finding?, found]
  rfl

/-- Messages about the whole file do not begin like a line number. -/
theorem after?_line_eq_none {files : Files} {path : Bytes} {finding : Finding}
    (reported : Check.Reported files path finding) (noLine : finding.line = 0) :
    Bytes.after? (utf8 "Line ") finding.message = none := by
  rcases reported.message_eq with ⟨rest, message, _⟩
  apply Bytes.after?_eq_none
  intro beginning
  rw [message] at beginning
  have comparable := List.prefix_or_prefix_of_prefix beginning
    (List.prefix_append finding.rule.opening rest)
  rcases reported.line_eq_zero_iff.mp noLine with rule | rule
  · rw [rule] at comparable
    exact absurd comparable (by decide)
  · rw [rule] at comparable
    exact absurd comparable (by decide)

theorem readFindingText?_text {files : Files} {path : Bytes} {finding : Finding}
    (reported : Check.Reported files path finding) :
    readFindingText? finding.file finding.text = some finding := by
  unfold Finding.text
  split
  · next hasLine =>
    have digits := decimal_all_digits finding.line
    have numbered : Bytes.after? (utf8 "Line ")
        (utf8 "Line " ++ decimal finding.line ++ utf8 ": " ++ finding.message) =
        some (decimal finding.line ++ (utf8 ": " ++ finding.message)) := by
      rw [List.append_assoc, List.append_assoc, Bytes.after?_append]
    have colon : utf8 ": " ++ finding.message =
        Bytes.ascii ':' :: Bytes.ascii ' ' :: finding.message := rfl
    have stops : (utf8 ": " ++ finding.message).takeWhile Numeral.isDecimalDigit = [] ∧
        (utf8 ": " ++ finding.message).dropWhile Numeral.isDecimalDigit =
          utf8 ": " ++ finding.message := by
      rw [colon]
      exact ⟨List.takeWhile_cons_of_neg (by decide), List.dropWhile_cons_of_neg (by decide)⟩
    rw [readFindingText?, numbered]
    simp only [List.takeWhile_append_of_pos digits, List.dropWhile_append_of_pos digits, stops.1,
      stops.2, List.append_nil, value_decimal, Bytes.after?_append, Option.bind_some]
    exact finding?_eq reported
  · next noLine =>
    have zero : finding.line = 0 := Nat.eq_zero_of_not_pos noLine
    have found := finding?_eq reported
    rw [zero] at found
    rw [readFindingText?, after?_line_eq_none reported zero]
    exact found

/-! ## Reading blocks -/

theorem readBlock?_blockLines (files : Files) (path : Bytes) :
    readBlock? (blockLines false (checkFile files path)) = some (checkFile files path) := by
  have heading : headingLine false (checkFile files path) =
      (checkFile files path).file ++ [Bytes.ascii ':'] := rfl
  have each : ∀ finding ∈ (checkFile files path).findings,
      (Bytes.after? (utf8 "  - ") (utf8 "  - " ++ finding.text)).bind
        (readFindingText? (checkFile files path).file) = some finding := by
    intro finding found
    rw [Bytes.after?_append, Option.bind_some, ← checkFile_finding_file found]
    exact readFindingText?_text (checkFile_reported found)
  have findings : ((checkFile files path).findings.map fun finding =>
      utf8 "  - " ++ finding.text).filterMap (fun line =>
        (Bytes.after? (utf8 "  - ") line).bind (readFindingText? (checkFile files path).file)) =
      (checkFile files path).findings := by
    rw [List.filterMap_map]
    exact (List.filterMap_congr each).trans List.filterMap_some
  rw [blockLines, heading, readBlock?, if_pos List.getLast?_concat]
  simp only [List.dropLast_concat, findings]

theorem blank_not_mem_blockLines (result : FileResult) : [] ∉ blockLines false result := by
  have marked : ∀ text, utf8 "  - " ++ text ≠ [] := by
    intro text empty
    exact absurd (List.append_eq_nil_iff.mp empty).1 (by decide)
  intro member
  rcases List.mem_cons.mp member with heading | finding
  · exact absurd (List.append_eq_nil_iff.mp heading.symm).2 (by decide)
  · rcases List.mem_map.mp finding with ⟨reported, _, empty⟩
    exact marked _ empty

/-- Blank lines separate the blocks from each other and from what follows. -/
theorem splitOn_blocksLines (block : List Bytes) (results : List FileResult) (rest : List Bytes)
    (noBlank : [] ∉ block) :
    (block ++ (blocksLines false results ++ [] :: rest)).splitOn [] =
      block :: results.map (blockLines false) ++ rest.splitOn [] := by
  induction results generalizing block with
  | nil => exact List.splitOn_append_cons_self_of_not_mem noBlank rest
  | cons result others inductionHypothesis =>
    have later := inductionHypothesis (blockLines false result) (blank_not_mem_blockLines result)
    have first : blocksLines false (result :: others) ++ [] :: rest =
        [] :: (blockLines false result ++ (blocksLines false others ++ [] :: rest)) := by
      simp only [blocksLines, List.flatMap_cons, List.cons_append, List.append_assoc]
    rw [first, List.splitOn_append_cons_self_of_not_mem noBlank, later]
    rfl

/-- A report of results on lines is read back. -/
theorem readReport_eq {results : List FileResult} (onLines : ∀ result ∈ results, OnLines result)
    (checked : ∀ result ∈ results, ∃ files path, result = checkFile files path) :
    readReport (results.flatMap (textBlock false) ++ textSummary false (!results.isEmpty)) =
      results := by
  have oneLine : ∀ line ∈ blocksLines false results ++ summaryLines false (!results.isEmpty),
      Check.lineFeed ∉ line := by
    intro line member
    rcases List.mem_append.mp member with inBlocks | inSummary
    · exact lineFeed_not_mem_blocksLines onLines line inBlocks
    · exact lineFeed_not_mem_summaryLines false _ line inSummary
  have whole : results.flatMap (textBlock false) ++ textSummary false (!results.isEmpty) =
      unlines (blocksLines false results ++ summaryLines false (!results.isEmpty)) := by
    rw [blocks_eq_unlines, textSummary_eq_unlines, unlines, unlines, unlines, List.flatMap_append]
  rw [readReport, whole, lines_unlines oneLine]
  cases results with
  | nil => decide
  | cons result others =>
    have read : ∀ result' ∈ result :: others,
        readBlock? (blockLines false result') = some result' := by
      intro result' member
      rcases checked result' member with ⟨files, path, rfl⟩
      exact readBlock?_blockLines files path
    have groups := splitOn_blocksLines [] (result :: others) [summaryLine false true, []]
      List.not_mem_nil
    have summary : [summaryLine false true, []].splitOn [] = [[summaryLine false true], []] := by
      decide
    have lines : blocksLines false (result :: others) ++
        summaryLines false (!(result :: others).isEmpty) ++ [[]] =
        [] ++ (blocksLines false (result :: others) ++ [] :: [summaryLine false true, []]) := by
      simp [summaryLines]
    rw [lines, groups, summary, List.cons_append, List.filterMap_cons_none rfl,
      List.filterMap_append, List.filterMap_map]
    have ending : [[summaryLine false true], []].filterMap readBlock? = [] := by decide
    rw [ending, List.append_nil]
    exact (List.filterMap_congr read).trans List.filterMap_some

/-! ## Completed runs -/

theorem any_unclean_eq (results : List FileResult) :
    (results.any fun result => !result.clean) = !(unclean results).isEmpty := by
  apply Bool.eq_iff_iff.mpr
  simp [unclean]

/-- A run with a text report that checks the files at the given paths to the end, without colours
and with an output that can be written. -/
structure CompletedTextRun (files : Files) (config : Config) (options : RunOptions)
    (context : RunContext) (paths : List Bytes) (outcome : RunOutcome) : Prop where
  format : ReportFormat.ofName? options.format = some .text
  plain : options.coloured = false
  writable : context.writable = true
  resolved : Run.targets? files config options = some paths
  ended : run files config options context = some outcome
  completed : outcome.error? ≠ some .cancelled

namespace CompletedTextRun

variable {files : Files} {config : Config} {options : RunOptions} {context : RunContext}
  {paths : List Bytes} {outcome : RunOutcome}

theorem allows (completed : CompletedTextRun files config options context paths outcome) :
    Run.Allows context paths.length := by
  intro limit stops
  apply Classical.byContradiction
  intro early
  have cancelled := Run.run_of_cancelled completed.format completed.resolved stops
    (Nat.lt_of_not_le early)
  rw [completed.ended] at cancelled
  cases cancelled
  exact completed.completed rfl

theorem run_eq (completed : CompletedTextRun files config options context paths outcome) :
    let results := paths.map (checkFile files)
    run files config options context = some
      { output := whole .text options results
        error? := Run.verdict? results
        entries := Run.loggedEntries files config options paths } :=
  Run.run_writes_whole completed.writable completed.format completed.resolved completed.allows

theorem output_eq (completed : CompletedTextRun files config options context paths outcome) :
    outcome.output = (unclean (paths.map (checkFile files))).flatMap (textBlock false) ++
      textSummary false (!(unclean (paths.map (checkFile files))).isEmpty) := by
  have ended := completed.run_eq
  rw [completed.ended] at ended
  cases ended
  rw [whole, completed.plain, Run.decide_verdict?, any_unclean_eq]

theorem error?_eq (completed : CompletedTextRun files config options context paths outcome) :
    outcome.error? =
      if (unclean (paths.map (checkFile files))).isEmpty then none else some .issuesFound := by
  have ended := completed.run_eq
  rw [completed.ended] at ended
  cases ended
  simp only [Run.verdict?, any_unclean_eq]
  cases (unclean (paths.map (checkFile files))).isEmpty <;> rfl

/-- The results with findings can be read from the output. -/
theorem readReport_output
    (completed : CompletedTextRun files config options context paths outcome)
    (brings : files.BringsNo Check.lineFeed) (oneLine : ∀ path ∈ paths, Check.lineFeed ∉ path) :
    readReport outcome.output = unclean (paths.map (checkFile files)) := by
  have origin : ∀ result ∈ unclean (paths.map (checkFile files)),
      ∃ path ∈ paths, checkFile files path = result :=
    fun result member => List.mem_map.mp (mem_of_mem_unclean member)
  rw [completed.output_eq]
  apply readReport_eq
  · intro result member
    rcases origin result member with ⟨path, listed, rfl⟩
    exact onLines_checkFile brings (oneLine path listed)
  · intro result member
    rcases origin result member with ⟨path, _, rfl⟩
    exact ⟨files, path, rfl⟩

end CompletedTextRun

/-- Two completed runs with text reports over any files, at paths without line feeds, have the
same results with findings and the same verdict if they have written the same bytes. The runs may
differ in everything else. Of the files it is only needed that their errors bring no line feed
into a message, as is the case in memory and on a disk. -/
theorem text_report_is_unambiguous :
    (∀ memory : Memory, memory.view.BringsNo Check.lineFeed) ∧
      (∀ disk : Disk, disk.view.BringsNo Check.lineFeed) ∧
      ∀ (files files' : Files) (config config' : Config) (options options' : RunOptions)
        (context context' : RunContext) (paths paths' : List Bytes)
        (outcome outcome' : RunOutcome),
        files.BringsNo Check.lineFeed → files'.BringsNo Check.lineFeed →
        CompletedTextRun files config options context paths outcome →
        CompletedTextRun files' config' options' context' paths' outcome' →
        (∀ path ∈ paths, Check.lineFeed ∉ path) → (∀ path ∈ paths', Check.lineFeed ∉ path) →
        outcome.output = outcome'.output →
        unclean (paths.map (checkFile files)) = unclean (paths'.map (checkFile files')) ∧
          outcome.error? = outcome'.error? := by
  refine ⟨Memory.bringsNo (by decide), Disk.bringsNo (by decide), ?_⟩
  intro files files' config config' options options' context context' paths paths' outcome outcome'
    brings brings' completed completed' oneLine oneLine' same
  have results : unclean (paths.map (checkFile files)) =
      unclean (paths'.map (checkFile files')) := by
    rw [← completed.readReport_output brings oneLine, same,
      completed'.readReport_output brings' oneLine']
  refine ⟨results, ?_⟩
  rw [completed.error?_eq, completed'.error?_eq, results]

/-- The second file of `mixedFiles`, on a disk. -/
def brokenDisk : Disk where
  items := [([utf8 "b.php"], .file (utf8 "\x7b\nreturn 1\n"))]

/-- The outcome of a run in memory over a file without findings and one with two of them. -/
def memoryOutcome : RunOutcome :=
  Run.checkPaths mixedFiles.view .text {} {} [utf8 "a.php", utf8 "b.php"]

/-- The outcome of a run on the disk that would be cancelled after its only file. -/
def diskOutcome : RunOutcome :=
  Run.checkPaths brokenDisk.view .text {} { cancelAfter? := some 1 } [utf8 "b.php"]

theorem text_report_is_unambiguous_across_stores :
    memoryOutcome.output = diskOutcome.output ∧
      unclean ([utf8 "a.php", utf8 "b.php"].map (checkFile mixedFiles.view)) =
        unclean ([utf8 "b.php"].map (checkFile brokenDisk.view)) ∧
      memoryOutcome.error? = diskOutcome.error? := by
  have inMemory : CompletedTextRun mixedFiles.view {} { paths := [utf8 "a.php", utf8 "b.php"] } {}
      [utf8 "a.php", utf8 "b.php"] memoryOutcome :=
    ⟨rfl, rfl, rfl, rfl, rfl, by decide +kernel⟩
  have onDisk : CompletedTextRun brokenDisk.view {} { paths := [utf8 "b.php"] }
      { cancelAfter? := some 1 } [utf8 "b.php"] diskOutcome :=
    ⟨rfl, rfl, rfl, rfl, rfl, by decide +kernel⟩
  have same : memoryOutcome.output = diskOutcome.output := by decide +kernel
  rcases text_report_is_unambiguous with ⟨memory, disk, unambiguous⟩
  exact ⟨same, unambiguous _ _ _ _ _ _ _ _ _ _ _ _ (memory mixedFiles) (disk brokenDisk) inMemory
    onDisk (by decide) (by decide) same⟩

end Report
end PhpLint
