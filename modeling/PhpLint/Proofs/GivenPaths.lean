import PhpLint.Proofs.Cancellation
import PhpLint.Proofs.Sarif
import PhpLint.Proofs.Verdict

namespace PhpLint

/-!
# Runs over given paths

A run over paths that it is given does not look at the configuration, not even at one
whose patterns would make a search fail or break down. It checks every path on its own:
the results of a list of paths are the results of its parts, whatever becomes of the
single files. In a SARIF report the findings of two lists of paths follow each other,
and so do the blocks of a text report, which only share the summary.
-/

namespace Report

/-- The results that a reader of JSON finds in a SARIF report. -/
def sarifResults? (output : Bytes) : Option (List Sarif.Result) :=
  ((Json.read? output.dropLast).bind Sarif.Log.ofJson?).map fun log =>
    log.runs.flatMap Sarif.Run.results

theorem sarifResults?_sarif (version : Bytes) (results : List FileResult) :
    sarifResults? (sarif version results) =
      some ((results.flatMap FileResult.findings).map Sarif.Result.ofFinding) := by
  have body : (sarif version results).dropLast = (sarifLog version results).toJson.render 0 := by
    rw [sarif, Json.document]
    exact List.dropLast_concat
  rw [sarifResults?, body, Json.read?_render, Option.bind_some, Sarif.log_ofJson?_toJson]
  simp [Sarif.Log.ofFindings]

end Report

namespace Run

open Report

variable {files : Files} {config : Config} {options : RunOptions} {context : RunContext}
  {format : ReportFormat}

/-- The configuration is only looked at by a search. -/
theorem run_eq_of_given (given : options.paths ≠ []) (first second : Config) :
    run files first options context = run files second options context := by
  have notSearched : ¬ options.paths.isEmpty = true := by
    rwa [List.isEmpty_iff]
  unfold run
  cases ReportFormat.ofName? options.format with
  | none => rfl
  | some format => simp only [if_neg notSearched]

theorem targets?_of_given (given : options.paths ≠ []) :
    targets? files config options = some options.paths := by
  apply if_neg
  rwa [List.isEmpty_iff]

/-- A run over some paths with a format, in which nothing is cancelled and all can be written. -/
def runOver (files : Files) (config : Config) (options : RunOptions) (name : Bytes)
    (paths : List Bytes) : Option RunOutcome :=
  run files config { options with format := name, paths := paths } {}

theorem runOver_eq {name : Bytes} {paths : List Bytes} (given : paths ≠ [])
    (named : ReportFormat.ofName? name = some format) :
    let results := paths.map (checkFile files)
    runOver files config options name paths = some
      { output := results.flatMap (writtenAtOnce format options {}) ++
          (finish format options {} (gathered format options {} results)).1
        error? := verdict? results
        entries := loggedEntries files config { options with paths := paths } paths } := by
  intro results
  have resolved : targets? files config { options with format := name, paths := paths } =
      some paths := targets?_of_given given
  rw [runOver, run_of_allows named resolved (allows_of_never rfl paths.length),
    finish_of_writable rfl]
  rfl

theorem runOver_sarif (config : Config) {paths : List Bytes} (given : paths ≠ []) :
    ∃ outcome, runOver files config options (utf8 "sarif") paths = some outcome ∧
      sarifResults? outcome.output = some
        (((paths.map (checkFile files)).flatMap FileResult.findings).map
          Sarif.Result.ofFinding) := by
  refine ⟨_, runOver_eq given (show _ = some ReportFormat.sarif by decide), ?_⟩
  rw [flatMap_writtenAtOnce_of_ne_text (by decide)]
  exact sarifResults?_sarif options.version _

/-- The text is that of the single files and the summary. -/
theorem runOver_text (config : Config) {name : Bytes} {paths : List Bytes} (given : paths ≠ [])
    (named : ReportFormat.ofName? name = some .text) :
    ∃ outcome, runOver files config options name paths = some outcome ∧
      outcome.output =
        (paths.map (checkFile files)).flatMap (writtenAtOnce .text options {}) ++
          textSummary options.coloured (outcome.error? = some .issuesFound) := by
  refine ⟨_, runOver_eq given named, ?_⟩
  rw [decide_verdict?]
  rfl

end Run

open Report Run

/-- A run over given paths is isolated from the configuration: whatever it is, also if there is
none or if its list of ignored files is unprepared, malformed or lacks elements, the run ends with
the same output, error and log. The paths are isolated from each other: unless the run is
cancelled or its output cannot be written, the report is made of one result for every path in
order, and the log tells that these have been checked. So in a SARIF report the results of two
lists of paths follow each other, and the text of two lists of paths is the text of the first and
then that of the second, apart from their summaries. -/
theorem given_paths_isolate_runs (files : Files) (options : RunOptions) (paths others : List Bytes)
    (given : paths ≠ []) (othersGiven : others ≠ []) :
    (∀ context, ∃ outcome, ∀ config? : Option Config,
      run files (config?.getD .standard) { options with paths := paths } context = some outcome) ∧
    (∀ (context : RunContext) (config? : Option Config) (format : ReportFormat),
      ReportFormat.ofName? options.format = some format → context.writable = true →
      Allows context paths.length →
      ∃ outcome,
        run files (config?.getD .standard) { options with paths := paths } context =
          some outcome ∧
        IsReport format options (paths.map (checkFile files)) outcome.output ∧
        outcome.error? = verdict? (paths.map (checkFile files)) ∧
        loggedFiles outcome.entries = paths) ∧
    (∀ config? : Option Config, ∃ (first second both : RunOutcome)
      (results otherResults : List Sarif.Result),
      runOver files (config?.getD .standard) options (utf8 "sarif") paths = some first ∧
      runOver files (config?.getD .standard) options (utf8 "sarif") others = some second ∧
      runOver files (config?.getD .standard) options (utf8 "sarif") (paths ++ others) = some both ∧
      sarifResults? first.output = some results ∧
      sarifResults? second.output = some otherResults ∧
      sarifResults? both.output = some (results ++ otherResults)) ∧
    ∀ (config? : Option Config), ∀ name ∈ [[], utf8 "text"], ∃ (first second both : RunOutcome)
      (blocks otherBlocks : Bytes),
      runOver files (config?.getD .standard) options name paths = some first ∧
      runOver files (config?.getD .standard) options name others = some second ∧
      runOver files (config?.getD .standard) options name (paths ++ others) = some both ∧
      first.output = blocks ++
        textSummary options.coloured (first.error? = some .issuesFound) ∧
      second.output = otherBlocks ++
        textSummary options.coloured (second.error? = some .issuesFound) ∧
      both.output = blocks ++ otherBlocks ++
        textSummary options.coloured (both.error? = some .issuesFound) := by
  have bothGiven : paths ++ others ≠ [] := List.append_ne_nil_of_left_ne_nil given others
  refine ⟨?_, ?_, ?_, ?_⟩
  · intro context
    have hasOutcome : ∃ outcome,
        run files .standard { options with paths := paths } context = some outcome :=
      exists_outcome_of_resolved (targets?_of_given given)
    rcases hasOutcome with ⟨outcome, ran⟩
    refine ⟨outcome, fun config? => ?_⟩
    rw [← ran]
    apply run_eq_of_given
    exact given
  · intro context config? format named writable allowed
    have resolved : targets? files (config?.getD .standard) { options with paths := paths } =
        some paths := targets?_of_given given
    refine ⟨_, run_of_allows named resolved allowed, ?_, ?_, ?_⟩
    · exact isReport_of_writable writable _
    · simp only [finish_of_writable writable, Option.none_or]
    · exact loggedFiles_run files _ { options with paths := paths } paths.length paths
  · intro config?
    rcases runOver_sarif (config?.getD .standard) given with ⟨first, ranFirst, isFirst⟩
    rcases runOver_sarif (config?.getD .standard) othersGiven with ⟨second, ranSecond, isSecond⟩
    rcases runOver_sarif (config?.getD .standard) bothGiven with ⟨both, ranBoth, isBoth⟩
    rw [List.map_append, List.flatMap_append, List.map_append] at isBoth
    exact ⟨first, second, both, _, _, ranFirst, ranSecond, ranBoth, isFirst, isSecond, isBoth⟩
  · intro config? name isText
    have named := ReportFormat.ofName?_of_text isText
    rcases runOver_text (config?.getD .standard) given named with ⟨first, ranFirst, isFirst⟩
    rcases runOver_text (config?.getD .standard) othersGiven named with
      ⟨second, ranSecond, isSecond⟩
    rcases runOver_text (config?.getD .standard) bothGiven named with ⟨both, ranBoth, isBoth⟩
    rw [List.map_append, List.flatMap_append] at isBoth
    exact ⟨first, second, both, _, _, ranFirst, ranSecond, ranBoth, isFirst, isSecond, isBoth⟩

/-- A list of ignored files with which a search breaks down makes no difference to a run over
given paths, also if it is cancelled. A file that is missing and one that is given twice have their
place in the report. -/
theorem given_paths_isolate_mixed_runs :
    run mixedFiles.view { ignoreFiles := [none] } mixedOptions { cancelAfter? := some 2 } =
        run mixedFiles.view .standard mixedOptions { cancelAfter? := some 2 } ∧
      (∃ outcome, run mixedFiles.view { ignoreFiles := [none] } mixedOptions {} = some outcome ∧
        loggedFiles outcome.entries = mixedOptions.paths) ∧
      ∃ (both : RunOutcome) (results otherResults : List Sarif.Result),
        runOver mixedFiles.view { ignoreFiles := [none] } mixedOptions (utf8 "sarif")
          (mixedOptions.paths ++ [utf8 "b.php", utf8 "b.php"]) = some both ∧
        sarifResults? both.output = some (results ++ otherResults) := by
  rcases given_paths_isolate_runs mixedFiles.view mixedOptions mixedOptions.paths
    [utf8 "b.php", utf8 "b.php"] (by decide) (by decide) with ⟨same, reported, sarif, _⟩
  refine ⟨?_, ?_, ?_⟩
  · rcases same { cancelAfter? := some 2 } with ⟨outcome, ran⟩
    exact (ran (some { ignoreFiles := [none] })).trans (ran none).symm
  · rcases reported {} (some { ignoreFiles := [none] }) .text rfl rfl
      (allows_of_never rfl _) with ⟨outcome, ran, _, _, logged⟩
    exact ⟨outcome, ran, logged⟩
  · rcases sarif (some { ignoreFiles := [none] }) with
      ⟨_, _, both, results, otherResults, _, _, ran, _, _, isBoth⟩
    exact ⟨both, results, otherResults, ran, isBoth⟩

end PhpLint
