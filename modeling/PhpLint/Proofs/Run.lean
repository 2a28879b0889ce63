import PhpLint.Run

namespace PhpLint
namespace Run

/-!
# Runs from file to file

A run goes from file to file. It writes the block of a file as soon as the file
has been checked, if the report is a text, and it keeps a flag that says whether
any file had findings. What it has gathered after some files is determined by
their results: the flag is raised exactly if one of them has findings, and the
blocks written on the way are those of the files with findings, in order. A
cancelled run has gathered what the files before the cancellation lead to.
-/

/-- What the checks of some files lead to when they are not cancelled. -/
def gathered (format : ReportFormat) (options : RunOptions) (context : RunContext)
    (results : List FileResult) : Progress where
  results := results
  failed := results.any fun result => !result.clean
  output := results.flatMap (writtenAtOnce format options context)
  entries := results.flatMap resultEntries

/-- The paths that a run checks: those that it was given, or else those that it finds. There are
none if the search fails. -/
def targets? (files : Files) (config : Config) (options : RunOptions) : Option (List Bytes) :=
  if options.paths.isEmpty then
    match (config.search files).failure? with
    | none => some (config.search files).files
    | some _ => none
  else
    some options.paths

variable {files : Files} {config : Config} {options : RunOptions} {context : RunContext}
  {format : ReportFormat}

theorem isCancelled_of_never (never : context.cancelAfter? = none) (asked : Nat) :
    isCancelled context asked = false := by
  rw [isCancelled, never]
  rfl

/-- Each step puts the result of a file before what the later files lead to. -/
theorem checkEach_eq_gathered (never : context.cancelAfter? = none) (asked : Nat)
    (paths : List Bytes) :
    checkEach files format options context asked paths =
      gathered format options context (paths.map (checkFile files)) := by
  induction paths generalizing asked with
  | nil => rfl
  | cons path rest inductionHypothesis =>
    have notYet := isCancelled_of_never never asked
    simp only [checkEach, notYet, Bool.false_eq_true, if_false, inductionHypothesis (asked + 1)]
    rfl

/-- A run that is cancelled after some files has gathered what these files lead to. The limit
counts from the files that have been checked before. -/
theorem checkEach_eq_gathered_take {asked limit : Nat}
    (stops : context.cancelAfter? = some (asked + limit)) (paths : List Bytes) :
    checkEach files format options context asked paths =
      { gathered format options context ((paths.take limit).map (checkFile files)) with
        cancelled := decide (limit < paths.length) } := by
  induction paths generalizing asked limit with
  | nil =>
    rw [List.take_nil]
    rfl
  | cons path rest inductionHypothesis =>
    cases limit with
    | zero =>
      have now : isCancelled context asked = true := by simp [isCancelled, stops]
      simp only [checkEach, now, if_true, List.take_zero, List.length_cons, Nat.zero_lt_succ,
        decide_true]
      rfl
    | succ limit =>
      have notYet : isCancelled context asked = false := by
        simp only [isCancelled, stops, Option.any_some, decide_eq_false_iff_not]
        omega
      have later := inductionHypothesis (stops.trans (by rw [Nat.add_assoc, Nat.add_comm 1 limit]))
      simp only [checkEach, notYet, Bool.false_eq_true, if_false, later, List.take_succ_cons,
        List.length_cons, Nat.succ_lt_succ_iff]
      rfl

/-- The run is not cancelled before it has checked that many files. -/
def Allows (context : RunContext) (count : Nat) : Prop :=
  ∀ limit, context.cancelAfter? = some limit → count ≤ limit

theorem allows_of_never (never : context.cancelAfter? = none) (count : Nat) :
    Allows context count := by
  intro limit stops
  rw [never] at stops
  cases stops

/-- A limit that is not reached makes no difference. -/
theorem checkEach_of_allows {paths : List Bytes} (allowed : Allows context paths.length) :
    checkEach files format options context 0 paths =
      gathered format options context (paths.map (checkFile files)) := by
  cases stops : context.cancelAfter? with
  | none => exact checkEach_eq_gathered stops 0 paths
  | some limit =>
    have enough : paths.length ≤ limit := allowed limit stops
    rw [checkEach_eq_gathered_take (stops.trans (by rw [Nat.zero_add])),
      List.take_of_length_le enough, decide_eq_false (Nat.not_lt.mpr enough)]
    rfl

/-- The verdict of a run whose report has been written. -/
def verdict? (results : List FileResult) : Option RunError :=
  if results.any fun result => !result.clean then some .issuesFound else none

/-- What a run logs that is not cancelled. -/
def loggedEntries (files : Files) (config : Config) (options : RunOptions) (paths : List Bytes) :
    List LogEntry :=
  (if options.paths.isEmpty then (config.search files).entries else []) ++
    foundEntry paths.length :: (paths.map (checkFile files)).flatMap resultEntries

/-- Once the paths are known, a run checks them. What the search has to say comes first in the
log. -/
theorem run_eq_checkPaths {paths : List Bytes}
    (named : ReportFormat.ofName? options.format = some format)
    (resolved : targets? files config options = some paths) :
    run files config options context = some
      { checkPaths files format options context paths with
        entries := (if options.paths.isEmpty then (config.search files).entries else []) ++
          (checkPaths files format options context paths).entries } := by
  unfold targets? at resolved
  simp only [run, named]
  split at resolved
  · next searched =>
    rw [if_pos searched, if_pos searched]
    cases failure : (config.search files).failure? with
    | some reason =>
      rw [failure] at resolved
      cases resolved
    | none =>
      rw [failure] at resolved
      cases resolved
      rfl
  · next given =>
    rw [if_neg given, if_neg given]
    cases resolved
    rfl

/-- How a run ends that has no paths to check: there is no such format, or the search has failed.
Nothing is left if the search has broken down. -/
def refusal? (files : Files) (config : Config) (options : RunOptions) : Option RunOutcome :=
  match ReportFormat.ofName? options.format, (config.search files).failure? with
  | none, _ => some { error? := some (.unknownFormat options.format) }
  | some _, some ⟨path, .pattern error⟩ =>
    some
      { error? := some (.search config.root path error)
        entries := (config.search files).entries }
  | some _, _ => none

theorem run_of_unresolved (unresolved : targets? files config options = none)
    (context : RunContext) :
    run files config options context = refusal? files config options := by
  unfold targets? at unresolved
  split at unresolved
  · next searched =>
    split at unresolved
    · cases unresolved
    · next failure failed =>
      unfold run refusal?
      rw [failed]
      cases ReportFormat.ofName? options.format with
      | none => rfl
      | some format =>
        rcases failure with ⟨path, _ | error⟩ <;> simp only [if_pos searched, failed]
  · cases unresolved

/-- A run that is refused has written nothing, and it gives no verdict. -/
theorem of_refusal?_eq_some {outcome : RunOutcome}
    (refused : refusal? files config options = some outcome) :
    outcome.output = [] ∧ ∃ error, outcome.error? = some error ∧ error ≠ .issuesFound := by
  unfold refusal? at refused
  split at refused
  · cases refused
    exact ⟨rfl, _, rfl, by simp⟩
  · cases refused
    exact ⟨rfl, _, rfl, by simp⟩
  · cases refused

/-- Once the paths are known, there is an outcome. -/
theorem exists_outcome_of_resolved {paths : List Bytes}
    (resolved : targets? files config options = some paths) :
    ∃ outcome, run files config options context = some outcome := by
  cases named : ReportFormat.ofName? options.format with
  | none => exact ⟨_, by simp only [run, named]; rfl⟩
  | some format => exact ⟨_, run_eq_checkPaths named resolved⟩

/-- A run whose search succeeds and that is not cancelled writes what it has gathered, and then
the end of its report. The verdict is only given if that could be written. -/
theorem run_of_allows {paths : List Bytes}
    (named : ReportFormat.ofName? options.format = some format)
    (resolved : targets? files config options = some paths)
    (allowed : Allows context paths.length) :
    let results := paths.map (checkFile files)
    let last := finish format options context (gathered format options context results)
    run files config options context = some
      { output := results.flatMap (writtenAtOnce format options context) ++ last.1
        error? := last.2.or (verdict? results)
        entries := loggedEntries files config options paths } := by
  intro results last
  rw [run_eq_checkPaths named resolved, checkPaths, checkEach_of_allows allowed]
  rfl

/-- A run that is cancelled between its files writes nothing after that, and the cancellation
takes the place of the verdict. -/
theorem run_of_cancelled {paths : List Bytes} {limit : Nat}
    (named : ReportFormat.ofName? options.format = some format)
    (resolved : targets? files config options = some paths)
    (stops : context.cancelAfter? = some limit) (early : limit < paths.length) :
    let results := (paths.take limit).map (checkFile files)
    run files config options context = some
      { output := results.flatMap (writtenAtOnce format options context)
        error? := some .cancelled
        entries := (if options.paths.isEmpty then (config.search files).entries else []) ++
          foundEntry paths.length :: results.flatMap resultEntries } := by
  intro results
  have progress : checkEach files format options context 0 paths =
      { gathered format options context results with
        cancelled := decide (limit < paths.length) } :=
    checkEach_eq_gathered_take (stops.trans (by rw [Nat.zero_add])) paths
  rw [run_eq_checkPaths named resolved, checkPaths, progress, decide_eq_true early]
  rfl

theorem any_unclean_iff (results : List FileResult) :
    (results.any fun result => !result.clean) = true ↔
      ∃ result ∈ results, result.findings ≠ [] := by
  simp [FileResult.clean]

theorem verdict?_eq_issuesFound_iff (results : List FileResult) :
    verdict? results = some .issuesFound ↔ ∃ result ∈ results, result.findings ≠ [] := by
  rw [← any_unclean_iff, verdict?]
  split <;> simp_all

/-- The verdict says the same as the flag of the run. -/
theorem decide_verdict? (results : List FileResult) :
    decide (verdict? results = some .issuesFound) = results.any fun result => !result.clean := by
  rw [Bool.eq_iff_iff, decide_eq_true_eq, any_unclean_iff, verdict?_eq_issuesFound_iff]

theorem verdict?_eq_none_iff (results : List FileResult) :
    verdict? results = none ↔ ∀ result ∈ results, result.findings = [] := by
  have decided := any_unclean_iff results
  rw [verdict?]
  split
  · next failed =>
    rcases decided.mp failed with ⟨result, member, findings⟩
    simp only [reduceCtorEq, false_iff]
    intro clean
    exact findings (clean result member)
  · next notFailed =>
    simp only [true_iff]
    intro result member
    apply Classical.byContradiction
    intro findings
    exact notFailed (decided.mpr ⟨result, member, findings⟩)

/-! ## What is written on the way -/

/-- A text report has the blocks of the files with findings. -/
theorem flatMap_writtenAtOnce_text (writable : context.writable = true)
    (results : List FileResult) :
    results.flatMap (writtenAtOnce .text options context) =
      (results.filter fun result => !result.clean).flatMap
        (Report.textBlock options.coloured) := by
  induction results with
  | nil => rfl
  | cons result rest inductionHypothesis =>
    rw [List.flatMap_cons, inductionHypothesis]
    cases clean : result.clean <;>
      simp [writtenAtOnce, writable, clean]

/-- The other reports are not begun before the end. -/
theorem flatMap_writtenAtOnce_of_ne_text (notText : format ≠ .text) (results : List FileResult) :
    results.flatMap (writtenAtOnce format options context) = [] := by
  rw [List.flatMap_eq_nil_iff]
  intro result _
  simp [writtenAtOnce, notText]

theorem finish_of_writable (writable : context.writable = true) (progress : Progress) :
    (finish format options context progress).2 = none := by
  cases format <;> simp [finish, writable]

end Run
end PhpLint
