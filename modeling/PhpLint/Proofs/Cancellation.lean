import PhpLint.Proofs.TextReport

namespace PhpLint
namespace Run

/-!
# Cancelled runs

A run asks before each file whether it has been cancelled. If it is cancelled
after some files, it has checked, logged and written exactly what belongs to
these files; no report is finished and no verdict is given. A cancellation that
comes after the last file comes too late: the run is the same as without it.
-/

/-! ## The checked files in the log -/

def loggedFile? (entry : LogEntry) : Option Bytes :=
  match entry.fields with
  | [(_, .text file)] => if entry.message = utf8 "check a file" then some file else none
  | _ => none

/-- The files of which a log says that they are checked, in order. -/
def loggedFiles (entries : List LogEntry) : List Bytes :=
  entries.filterMap loggedFile?

theorem loggedFiles_append (first second : List LogEntry) :
    loggedFiles (first ++ second) = loggedFiles first ++ loggedFiles second :=
  List.filterMap_append

theorem loggedFiles_resultEntries (result : FileResult) :
    loggedFiles (resultEntries result) = [result.file] := by
  have checked : loggedFile? (checkEntry result.file) = some result.file := rfl
  have issues : loggedFile? (issuesEntry result.file result.findings.length) = none := rfl
  unfold resultEntries loggedFiles
  rw [List.filterMap_cons_some checked]
  split
  · rfl
  · rw [List.filterMap_cons_none issues]
    rfl

theorem loggedFiles_checked (files : Files) (paths : List Bytes) :
    loggedFiles ((paths.map (checkFile files)).flatMap resultEntries) = paths := by
  induction paths with
  | nil => rfl
  | cons path rest inductionHypothesis =>
    rw [List.map_cons, List.flatMap_cons, loggedFiles_append, loggedFiles_resultEntries,
      inductionHypothesis, checkFile_file]
    rfl

/-- A search has other things to say. -/
theorem loggedFiles_select (config : Config) (visits : List Visit) :
    loggedFiles (config.select visits).entries = [] := by
  induction visits with
  | nil => rfl
  | cons visit rest inductionHypothesis =>
    cases visit with
    | unreachable path error => exact inductionHypothesis
    | directory path => exact inductionHypothesis
    | file path =>
      simp only [Config.select]
      split
      · split
        · rfl
        · have ignored : loggedFile? (ignoredEntry path) = none := by
            have other : utf8 "ignore a file" ≠ utf8 "check a file" := by decide
            simp only [loggedFile?, ignoredEntry]
            exact if_neg other
          exact (List.filterMap_cons_none ignored).trans inductionHypothesis
        · exact inductionHypothesis
      · exact inductionHypothesis

/-- The log of a run over some files tells the files that it has checked. -/
theorem loggedFiles_run (files : Files) (config : Config) (options : RunOptions) (count : Nat)
    (checked : List Bytes) :
    loggedFiles ((if options.paths.isEmpty then (config.search files).entries else []) ++
      foundEntry count :: (checked.map (checkFile files)).flatMap resultEntries) = checked := by
  have searched : loggedFiles (if options.paths.isEmpty then (config.search files).entries else [])
      = [] := by
    split
    · exact loggedFiles_select config _
    · rfl
  have found : loggedFile? (foundEntry count) = none := rfl
  rw [loggedFiles_append, searched, List.nil_append, loggedFiles,
    List.filterMap_cons_none found]
  exact loggedFiles_checked files checked

/-! ## Nothing depends on the later files -/

theorem checkFile_eq_of_read_eq {files files' : Files} {path : Bytes}
    (same : files'.read path = files.read path) : checkFile files' path = checkFile files path := by
  rw [checkFile, checkFile, same]

theorem targets?_eq_of_search_eq {files files' : Files} {config : Config} {options : RunOptions}
    (same : options.paths = [] → config.search files' = config.search files) :
    targets? files' config options = targets? files config options := by
  unfold targets?
  split
  · next searched => rw [same (List.isEmpty_iff.mp searched)]
  · rfl

/-- A cancelled run reads no other files than those before the cancellation. -/
theorem run_eq_of_read_eq {files files' : Files} {config : Config} {options : RunOptions}
    {context : RunContext} {format : ReportFormat} {paths : List Bytes} {limit : Nat}
    (named : ReportFormat.ofName? options.format = some format)
    (resolved : targets? files config options = some paths)
    (stops : context.cancelAfter? = some limit) (early : limit < paths.length)
    (sameSearch : options.paths = [] → config.search files' = config.search files)
    (sameFiles : ∀ path ∈ paths.take limit, files'.read path = files.read path) :
    run files' config options context = run files config options context := by
  have resolved' : targets? files' config options = some paths :=
    (targets?_eq_of_search_eq sameSearch).trans resolved
  have sameResults : (paths.take limit).map (checkFile files') =
      (paths.take limit).map (checkFile files) :=
    List.map_congr_left fun path listed => checkFile_eq_of_read_eq (sameFiles path listed)
  have sameEntries : (if options.paths.isEmpty then (config.search files').entries else []) =
      (if options.paths.isEmpty then (config.search files).entries else []) := by
    split
    · next searched => rw [sameSearch (List.isEmpty_iff.mp searched)]
    · rfl
  rw [run_of_cancelled named resolved' stops early, run_of_cancelled named resolved stops early,
    sameResults, sameEntries]

/-! ## What has been written -/

/-- No line of a block is a summary: a heading ends with another character, and the other lines
begin with others. -/
theorem summaryLine_not_mem_blocksLines (coloured failed : Bool) (results : List FileResult) :
    Report.summaryLine coloured failed ∉ Report.blocksLines coloured results := by
  intro member
  rcases List.mem_flatMap.mp member with ⟨result, _, inBlock⟩
  rcases List.mem_cons.mp inBlock with blank | inLines
  · revert blank
    cases coloured <;> cases failed <;> decide
  · rcases List.mem_cons.mp inLines with heading | finding
    · have last := congrArg List.getLast? heading
      rw [Report.headingLine, show utf8 ":" = [Bytes.ascii ':'] from rfl, List.getLast?_concat]
        at last
      revert last
      cases coloured <;> cases failed <;> decide
    · rcases List.mem_map.mp finding with ⟨reported, _, same⟩
      have first := congrArg List.head? same
      rw [show utf8 "  - " = Bytes.ascii ' ' :: utf8 " - " from rfl, List.cons_append,
        List.head?_cons] at first
      revert first
      cases coloured <;> cases failed <;> decide

/-- So no line of some blocks is a summary. -/
theorem summaryLine_not_mem_lines {files : Files} {checked : List Bytes}
    (brings : files.BringsNo Check.lineFeed) (oneLine : ∀ path ∈ checked, Check.lineFeed ∉ path)
    (coloured failed : Bool) :
    Report.summaryLine coloured failed ∉ Check.lines
      ((Report.unclean (checked.map (checkFile files))).flatMap (Report.textBlock coloured)) := by
  have onLines : ∀ result ∈ Report.unclean (checked.map (checkFile files)),
      Report.OnLines result := by
    intro result member
    rcases List.mem_map.mp (Report.mem_of_mem_unclean member) with ⟨path, listed, rfl⟩
    exact Report.onLines_checkFile brings (oneLine path listed)
  rw [Report.blocks_eq_unlines, Report.lines_unlines (Report.lineFeed_not_mem_blocksLines onLines),
    List.mem_append, not_or, List.mem_singleton]
  refine ⟨summaryLine_not_mem_blocksLines coloured failed _, ?_⟩
  cases coloured <;> cases failed <;> decide

/-- The results of the files before the cancellation are the first of all results. -/
theorem flatMap_results_eq {α : Type} (files : Files) (paths : List Bytes) (limit : Nat)
    (written : FileResult → List α) :
    (paths.map (checkFile files)).flatMap written =
      ((paths.take limit).map (checkFile files)).flatMap written ++
        ((paths.drop limit).map (checkFile files)).flatMap written := by
  rw [← List.flatMap_append, ← List.map_append, List.take_append_drop]

/-- The log of a cancelled run breaks off. -/
theorem entries_take_prefix (files : Files) (config : Config) (options : RunOptions)
    (paths : List Bytes) (limit : Nat) :
    (if options.paths.isEmpty then (config.search files).entries else []) ++
        foundEntry paths.length ::
          ((paths.take limit).map (checkFile files)).flatMap resultEntries <+:
      loggedEntries files config options paths := by
  rw [loggedEntries, flatMap_results_eq files paths limit, ← List.cons_append, ← List.append_assoc]
  exact List.prefix_append _ _

/-- The text of a whole run, as far as the cancellation and after it. -/
theorem textOutput_eq {context : RunContext} (writable : context.writable = true) (files : Files)
    (options : RunOptions) (paths : List Bytes) (limit : Nat) :
    let results := paths.map (checkFile files)
    results.flatMap (writtenAtOnce .text options context) ++
        (finish .text options context (gathered .text options context results)).1 =
      (Report.unclean ((paths.take limit).map (checkFile files))).flatMap
          (Report.textBlock options.coloured) ++
        ((Report.unclean ((paths.drop limit).map (checkFile files))).flatMap
            (Report.textBlock options.coloured) ++
          Report.textSummary options.coloured (verdict? results = some .issuesFound)) := by
  intro results
  have blocks : Report.unclean results =
      Report.unclean ((paths.take limit).map (checkFile files)) ++
        Report.unclean ((paths.drop limit).map (checkFile files)) := by
    rw [Report.unclean, Report.unclean, Report.unclean, ← List.filter_append, ← List.map_append,
      List.take_append_drop]
  rw [written_eq_whole writable, Report.whole, blocks, List.flatMap_append, List.append_assoc]

end Run

open Report Run

/-- A run that is cancelled stops exactly between two files. If the files are all checked before
the cancellation, the run is the same as the run that is never cancelled. Otherwise it ends with
the cancellation, whatever has been found. It has checked the files before the cancellation and
read no others, and its log is the beginning of the log of the whole run. SARIF and YAML reports
are not even begun. A text report has the blocks of the checked files with findings and lacks the
later blocks and the summary, so no line of it is a summary, unless one is spelled in a path. -/
theorem cancellation_stops_between_files (files : Files) (config : Config) (options : RunOptions)
    (format : ReportFormat) (paths : List Bytes) (limit : Nat)
    (named : ReportFormat.ofName? options.format = some format)
    (resolved : targets? files config options = some paths) :
    (paths.length ≤ limit →
      run files config options { cancelAfter? := some limit } = run files config options {}) ∧
    (limit < paths.length →
      (∀ files' : Files, (options.paths = [] → config.search files' = config.search files) →
        (∀ path ∈ paths.take limit, files'.read path = files.read path) →
        run files' config options { cancelAfter? := some limit } =
          run files config options { cancelAfter? := some limit }) ∧
      ∃ stopped whole : RunOutcome,
        run files config options { cancelAfter? := some limit } = some stopped ∧
        run files config options {} = some whole ∧
        stopped.error? = some .cancelled ∧
        loggedFiles stopped.entries = paths.take limit ∧ loggedFiles whole.entries = paths ∧
        stopped.entries <+: whole.entries ∧
        (format ≠ .text → stopped.output = []) ∧
        (format = .text →
          stopped.output = (unclean ((paths.take limit).map (checkFile files))).flatMap
            (textBlock options.coloured) ∧
          whole.output = stopped.output ++
            ((unclean ((paths.drop limit).map (checkFile files))).flatMap
              (textBlock options.coloured) ++
            textSummary options.coloured (whole.error? = some .issuesFound)) ∧
          (files.BringsNo Check.lineFeed → (∀ path ∈ paths.take limit, Check.lineFeed ∉ path) →
            ∀ failed, summaryLine options.coloured failed ∉ Check.lines stopped.output))) := by
  have never : Allows {} paths.length := allows_of_never rfl paths.length
  constructor
  · intro late
    have allowed : Allows { cancelAfter? := some limit } paths.length := by
      intro limit' stops
      cases stops
      exact late
    rw [run_of_allows named resolved allowed, run_of_allows named resolved never]
    rfl
  · intro early
    constructor
    · intro files' sameSearch sameFiles
      exact run_eq_of_read_eq named resolved rfl early sameSearch sameFiles
    · refine ⟨_, _, run_of_cancelled named resolved rfl early, run_of_allows named resolved never,
        rfl, loggedFiles_run files config options paths.length (paths.take limit),
        loggedFiles_run files config options paths.length paths, ?_, ?_, ?_⟩
      · exact entries_take_prefix files config options paths limit
      · intro notText
        exact flatMap_writtenAtOnce_of_ne_text notText _
      · intro text
        subst text
        -- the output may be written, so the blocks of the checked files are all there
        have blocks : ((paths.take limit).map (checkFile files)).flatMap
            (writtenAtOnce .text options { cancelAfter? := some limit }) =
            (unclean ((paths.take limit).map (checkFile files))).flatMap
              (textBlock options.coloured) :=
          flatMap_writtenAtOnce_text rfl _
        refine ⟨blocks, ?_, ?_⟩
        · rw [blocks]
          exact textOutput_eq rfl files options paths limit
        · intro brings oneLine failed
          rw [blocks]
          exact summaryLine_not_mem_lines brings oneLine options.coloured failed

/-- A cancellation after the third of three files comes too late. One after the second comes when
findings have already been written, and still there is no verdict. -/
theorem cancellation_stops_between_mixed_files :
    run mixedFiles.view {} mixedOptions { cancelAfter? := some 3 } =
        run mixedFiles.view {} mixedOptions {} ∧
      ∃ stopped : RunOutcome,
        run mixedFiles.view {} mixedOptions { cancelAfter? := some 2 } = some stopped ∧
        stopped.error? = some .cancelled ∧
        loggedFiles stopped.entries = [utf8 "a.php", utf8 "b.php"] ∧ stopped.output ≠ [] ∧
        ∀ failed, summaryLine false failed ∉ Check.lines stopped.output := by
  have named : ReportFormat.ofName? mixedOptions.format = some .text := rfl
  have resolved : targets? mixedFiles.view {} mixedOptions = some mixedOptions.paths := rfl
  have late := cancellation_stops_between_files mixedFiles.view {} mixedOptions .text
    mixedOptions.paths 3 named resolved
  have early := cancellation_stops_between_files mixedFiles.view {} mixedOptions .text
    mixedOptions.paths 2 named resolved
  refine ⟨late.1 (by decide), ?_⟩
  rcases early.2 (by decide) with
    ⟨_, stopped, whole, ran, _, error, logged, _, _, _, inText⟩
  rcases inText rfl with ⟨output, _, noSummary⟩
  refine ⟨stopped, ran, error, logged, ?_, ?_⟩
  · rw [output]
    decide +kernel
  · exact noSummary (Memory.bringsNo (by decide) mixedFiles) (by decide)

end PhpLint
