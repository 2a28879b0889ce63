import PhpLint.Proofs.Reports

namespace PhpLint

/-!
# Verdicts and their reports

A run ends with a verdict when it finds nothing wrong and when it finds issues. The
verdict refers to the report. A SARIF or YAML report is written in one piece before
the verdict is chosen, and an error of writing it takes the place of the verdict. A
text report is written in many pieces on the way, and none of them is asked whether it
could be written. So there is exactly one way to a verdict without its report: the
report is a text, and the output cannot be written.
-/

open Report

/-- Some bytes are the whole report of some results in a format. -/
def Report.IsReport (format : ReportFormat) (options : RunOptions) (results : List FileResult)
    (output : Bytes) : Prop :=
  match format with
  | .text => ∃ document : TextDocument, output = document.bytes ∧
      document.Describes options.coloured (Run.verdict? results = some .issuesFound) results
  | .sarif => ∃ log : SarifLog, output = log.toJson.document ∧ log.Describes options.version results
  | .yaml => ∃ listing : YamlDocument, output = listing.bytes ∧ listing.Describes results

/-- A text report has at least its summary. -/
theorem Report.not_isReport_text_nil (options : RunOptions) (results : List FileResult) :
    ¬ IsReport .text options results [] := by
  rintro ⟨document, nothing, describes⟩
  have summary : document.summary = [] := (List.append_eq_nil_iff.mp nothing.symm).2
  rw [describes.summary] at summary
  revert summary
  cases options.coloured <;> cases decide (Run.verdict? results = some .issuesFound) <;> decide

namespace Run

variable {files : Files} {config : Config} {options : RunOptions} {context : RunContext}
  {format : ReportFormat} {outcome : RunOutcome}

/-- The error of a report that could not be written. A text report has none. -/
def unwritten? : ReportFormat → Option RunError
  | .text => none
  | .sarif => some .sarifUnwritten
  | .yaml => some .yamlUnwritten

/-- A verdict, as opposed to an error that keeps a run from giving one. -/
def IsVerdict (error? : Option RunError) : Prop :=
  error? = none ∨ error? = some .issuesFound

theorem isVerdict_verdict? (results : List FileResult) : IsVerdict (verdict? results) := by
  unfold verdict?
  split
  · exact Or.inr rfl
  · exact Or.inl rfl

theorem not_isVerdict {error : RunError} (other : error ≠ .issuesFound) :
    ¬ IsVerdict (some error) := by
  rintro (impossible | same)
  · cases impossible
  · exact other (Option.some.inj same)

/-! ## How a run ends -/

theorem exists_limit_of_not_allows {count : Nat} (stopped : ¬ Allows context count) :
    ∃ limit, context.cancelAfter? = some limit ∧ limit < count := by
  simp only [Allows, Classical.not_forall, Nat.not_le] at stopped
  rcases stopped with ⟨limit, stops, early⟩
  exact ⟨limit, stops, early⟩

/-- A run without paths to check ends with an error of the search, if it ends at all. -/
theorem not_isVerdict_of_unresolved (unresolved : targets? files config options = none)
    (ran : run files config options context = some outcome) : ¬ IsVerdict outcome.error? := by
  rw [run_of_unresolved unresolved] at ran
  rcases (of_refusal?_eq_some ran).2 with ⟨error, isError, notIssues⟩
  rw [isError]
  exact not_isVerdict notIssues

/-- A verdict is only given after all files have been checked. -/
theorem completed_of_isVerdict (ran : run files config options context = some outcome)
    (verdict : IsVerdict outcome.error?) :
    ∃ format paths, ReportFormat.ofName? options.format = some format ∧
      targets? files config options = some paths ∧ Allows context paths.length := by
  cases named : ReportFormat.ofName? options.format with
  | none =>
    simp only [run, named] at ran
    cases ran
    exact absurd verdict (not_isVerdict (by simp))
  | some format =>
    cases resolved : targets? files config options with
    | none => exact absurd verdict (not_isVerdict_of_unresolved resolved ran)
    | some paths =>
      refine ⟨format, paths, rfl, rfl, ?_⟩
      apply Classical.byContradiction
      intro stopped
      rcases exists_limit_of_not_allows stopped with ⟨limit, stops, early⟩
      rw [run_of_cancelled named resolved stops early] at ran
      cases ran
      exact not_isVerdict (by decide) verdict

/-! ## What has been written -/

/-- Where the output can be written, a completed run has written its report. -/
theorem isReport_of_writable (writable : context.writable = true) (results : List FileResult) :
    IsReport format options results (results.flatMap (writtenAtOnce format options context) ++
      (finish format options context (gathered format options context results)).1) := by
  rw [written_eq_whole writable]
  cases format with
  | text => exact ⟨_, (textDocument_bytes _ _ _).symm, textDocument_describes _ _ _⟩
  | sarif => exact ⟨_, rfl, sarifLog_describes _ _⟩
  | yaml => exact ⟨_, (yamlDocument_bytes _).symm, yamlDocument_describes _⟩

theorem finish_of_unwritable (closed : context.writable = false) (progress : Progress) :
    finish format options context progress = ([], unwritten? format) := by
  cases format <;> simp [finish, closed, unwritten?]

theorem flatMap_writtenAtOnce_of_unwritable (closed : context.writable = false)
    (results : List FileResult) :
    results.flatMap (writtenAtOnce format options context) = [] := by
  apply List.flatMap_eq_nil_iff.mpr
  intro result _
  simp [writtenAtOnce, closed]

/-- The end of a run that checks all its files. If the output cannot be written, nothing is, and
the formats differ in whether they notice. -/
theorem run_completes {paths : List Bytes}
    (named : ReportFormat.ofName? options.format = some format)
    (resolved : targets? files config options = some paths)
    (allowed : Allows context paths.length) :
    ∃ outcome, run files config options context = some outcome ∧
      (context.writable = true → outcome.error? = verdict? (paths.map (checkFile files)) ∧
        IsReport format options (paths.map (checkFile files)) outcome.output) ∧
      (context.writable = false → outcome.output = [] ∧
        outcome.error? = (unwritten? format).or (verdict? (paths.map (checkFile files)))) := by
  refine ⟨_, run_of_allows named resolved allowed, ?_, ?_⟩
  · intro writable
    refine ⟨?_, isReport_of_writable writable _⟩
    simp only [finish_of_writable writable, Option.none_or]
  · intro closed
    simp only [finish_of_unwritable closed, flatMap_writtenAtOnce_of_unwritable closed,
      List.append_nil, and_self]

end Run

open Run

/-- A run gives a verdict without the whole report exactly if the report is a text, the output
cannot be written, and the files are found and checked without a cancellation. Whenever the files
are all checked, an output that can be written gets the whole report together with the verdict;
into one that cannot be written nothing goes, and the other formats then end with an error in
place of the verdict. -/
theorem verdict_lacks_report_iff (files : Files) (config : Config) (options : RunOptions)
    (context : RunContext) :
    ((∃ outcome, run files config options context = some outcome ∧ IsVerdict outcome.error? ∧
        ¬ ∃ format paths, ReportFormat.ofName? options.format = some format ∧
          targets? files config options = some paths ∧
          IsReport format options (paths.map (checkFile files)) outcome.output) ↔
      ReportFormat.ofName? options.format = some .text ∧ context.writable = false ∧
        ∃ paths, targets? files config options = some paths ∧ Allows context paths.length) ∧
    ∀ format paths, ReportFormat.ofName? options.format = some format →
      targets? files config options = some paths → Allows context paths.length →
      ∃ outcome, run files config options context = some outcome ∧
        (context.writable = true → outcome.error? = verdict? (paths.map (checkFile files)) ∧
          IsReport format options (paths.map (checkFile files)) outcome.output) ∧
        (context.writable = false → outcome.output = [] ∧
          outcome.error? = (unwritten? format).or (verdict? (paths.map (checkFile files)))) := by
  refine ⟨⟨?_, ?_⟩, fun format paths named resolved allowed =>
    run_completes named resolved allowed⟩
  · rintro ⟨outcome, ran, verdict, noReport⟩
    rcases completed_of_isVerdict ran verdict with ⟨format, paths, named, resolved, allowed⟩
    rcases run_completes named resolved allowed with ⟨completed, ranToo, written, unwritten⟩
    rw [ran] at ranToo
    cases ranToo
    cases writable : context.writable with
    | true => exact absurd ⟨format, paths, named, resolved, (written writable).2⟩ noReport
    | false =>
      rw [(unwritten writable).2] at verdict
      cases format with
      | text => exact ⟨named, rfl, paths, resolved, allowed⟩
      | sarif => exact absurd verdict (not_isVerdict (by decide))
      | yaml => exact absurd verdict (not_isVerdict (by decide))
  · rintro ⟨named, closed, paths, resolved, allowed⟩
    rcases run_completes named resolved allowed with ⟨outcome, ran, _, unwritten⟩
    rcases unwritten closed with ⟨nothing, verdict⟩
    refine ⟨outcome, ran, verdict ▸ isVerdict_verdict? _, ?_⟩
    rintro ⟨format, others, namedToo, _, report⟩
    rw [named] at namedToo
    cases namedToo
    rw [nothing] at report
    exact not_isReport_text_nil options _ report

/-- A file with a closing brace only. -/
def brokenFile : Memory :=
  Memory.put {} (utf8 "a.php") (utf8 "\x7d")

/-- Issues are said to be found, and there is nothing to be read about them. -/
theorem verdict_without_report_at_closed_output :
    ∃ outcome, run brokenFile.view .standard { paths := [utf8 "a.php"] } { writable := false } =
        some outcome ∧ outcome.error? = some .issuesFound ∧
      ¬ IsReport .text { paths := [utf8 "a.php"] } [checkFile brokenFile.view (utf8 "a.php")]
        outcome.output := by
  have ended : (run brokenFile.view .standard { paths := [utf8 "a.php"] }
      { writable := false }).map (fun outcome => (outcome.error?, outcome.output)) =
      some (some .issuesFound, []) := by
    decide +kernel
  rcases Option.map_eq_some_iff.mp ended with ⟨outcome, ran, found⟩
  rcases Prod.mk.inj found with ⟨issues, nothing⟩
  refine ⟨outcome, ran, issues, ?_⟩
  rw [nothing]
  exact not_isReport_text_nil _ _

end PhpLint
