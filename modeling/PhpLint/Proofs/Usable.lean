import PhpLint.Config.Read
import PhpLint.Files.Memory
import PhpLint.Proofs.Glob
import PhpLint.Run

namespace PhpLint

/-!
# Configurations that have been read

A configuration file that is read without an error leaves a configuration with
which every search succeeds. The configuration that the file is read into may be
any: what earlier readings have left of the list of ignored files is prepared
again together with what the file adds.

The argument follows the reading. A prepared pattern decides about every path, a
list that has been prepared to its end holds prepared patterns only, and a search
can fail at the list of ignored files and nowhere else.
-/

/-- The pattern can be matched with every path. -/
def Pattern.Decides (pattern : Pattern) : Prop :=
  ∀ path, ∃ matched, pattern.isMatch path = .ok matched

/-- A glob has only been tried with one name, but that settles it for every name. -/
theorem Pattern.decides_of_prepare {pattern prepared : Pattern}
    (success : pattern.prepare = .ok prepared) : prepared.Decides := by
  intro path
  unfold Pattern.prepare at success
  split at success
  · cases success
  split at success
  · cases success
  cases format : PatternFormat.ofName? pattern.format with
  | none =>
    rw [format] at success
    cases success
  | some known =>
    rw [format] at success
    cases known with
    | fixedString =>
      cases success
      exact ⟨path == pattern.text, by simp only [Pattern.isMatch, format]⟩
    | glob =>
      simp only at success
      cases tried : Glob.isMatch? pattern.text Pattern.globProbe with
      | none =>
        rw [tried] at success
        cases success
      | some answer =>
        rw [tried] at success
        cases success
        rcases Glob.exists_isMatch?_of_tried tried path with ⟨matched, found⟩
        exact ⟨matched, by simp only [Pattern.isMatch, format, found]⟩
    | regexp =>
      simp only at success
      cases compiled : Regex.parse pattern.text with
      | error error =>
        rw [compiled] at success
        cases success
      | ok expr =>
        rw [compiled] at success
        cases success
        exact ⟨expr.foundIn (Utf8.chars path), by simp only [Pattern.isMatch, format]⟩

namespace Config

/-- No element is missing, and every pattern can be matched with every path. -/
def Ready (elements : List (Option Pattern)) : Prop :=
  ∀ element ∈ elements, ∃ pattern, element = some pattern ∧ pattern.Decides

theorem ready_cons {pattern : Pattern} {rest : List (Option Pattern)} (decides : pattern.Decides)
    (ready : Ready rest) : Ready (some pattern :: rest) := by
  intro element member
  rcases List.mem_cons.mp member with same | later
  · exact ⟨pattern, same, decides⟩
  · exact ready element later

/-- Preparing goes through the whole list unless it fails. -/
theorem prepareAll_ready {elements : List (Option Pattern)}
    (success : (prepareAll elements).2 = none) : Ready (prepareAll elements).1 := by
  induction elements with
  | nil =>
    intro element member
    exact absurd member List.not_mem_nil
  | cons element rest inductionHypothesis =>
    cases element with
    | none => cases success
    | some pattern =>
      simp only [prepareAll] at success ⊢
      cases prepared : pattern.prepare with
      | error error =>
        rw [prepared] at success
        cases success
      | ok ready =>
        rw [prepared] at success
        exact ready_cons (Pattern.decides_of_prepare prepared) (inductionHypothesis success)

theorem anyMatch_of_ready {elements : List (Option Pattern)} (ready : Ready elements)
    (path : Bytes) : ∃ ignored, anyMatch path elements = .ok ignored := by
  induction elements with
  | nil => exact ⟨false, rfl⟩
  | cons element rest inductionHypothesis =>
    rcases ready element List.mem_cons_self with ⟨pattern, rfl, decides⟩
    rcases decides path with ⟨matched, answer⟩
    cases matched with
    | true => exact ⟨true, by simp only [anyMatch, answer]⟩
    | false =>
      rcases inductionHypothesis fun later member =>
        ready later (List.mem_cons_of_mem _ member) with ⟨ignored, others⟩
      exact ⟨ignored, by simp only [anyMatch, answer, others]⟩

/-! ## Reading -/

/-- A configuration with which every search can be made. -/
structure Usable (config : Config) : Prop where
  root_ne_nil : config.root ≠ []
  extension_ne_nil : config.extension ≠ []
  ready : Ready config.ignoreFiles

theorem withDefaults_root_ne_nil (config : Config) : config.withDefaults.root ≠ [] := by
  cases root : config.root with
  | nil => simp only [withDefaults, root, List.isEmpty_nil, if_true]; decide
  | cons b rest => simp [withDefaults, root]

theorem withDefaults_extension_ne_nil (config : Config) :
    config.withDefaults.extension ≠ [] := by
  cases extension : config.extension with
  | nil => simp only [withDefaults, extension, List.isEmpty_nil, if_true]; decide
  | cons b rest => simp [withDefaults, extension]

theorem complete_usable {config completed : Config}
    (success : config.complete = (completed, .done)) : completed.Usable := by
  unfold complete at success
  cases failure : (prepareAll config.ignoreFiles).2 with
  | some reason =>
    simp only [failure] at success
    cases reason <;> cases success
  | none =>
    simp only [failure] at success
    cases success
    exact ⟨withDefaults_root_ne_nil _, withDefaults_extension_ne_nil _, prepareAll_ready failure⟩

theorem readTextBy_usable {decoder : Decoder} {config completed : Config} {text : Bytes}
    (success : config.readTextBy decoder text = (completed, .done)) : completed.Usable := by
  unfold readTextBy at success
  cases error : (decoder text).2 with
  | some reason =>
    simp only [error] at success
    cases success
  | none =>
    simp only [error] at success
    exact complete_usable success

/-- It does not matter here what tells the settings of a file. -/
theorem readBy_usable {decoder : Decoder} {config completed : Config} {files : Files}
    {path : Bytes} (given : path ≠ [])
    (success : config.readBy decoder files path = (completed, .done)) : completed.Usable := by
  have notEmpty : path.isEmpty = false := by simpa using given
  simp only [readBy, notEmpty, Bool.false_eq_true, if_false] at success
  cases content : files.read path with
  | ok text =>
    simp only [content] at success
    exact readTextBy_usable success
  | error error =>
    cases error with
    | denied =>
      simp only [content] at success
      cases success
    | failed action opened fault =>
      cases action <;> simp only [content] at success <;> cases success

theorem Usable.isIgnored {config : Config} (usable : config.Usable) (path : Bytes) :
    ∃ ignored, config.isIgnored path = .ok ignored :=
  anyMatch_of_ready usable.ready path

/-! ## Searching -/

/-- A search only ever fails at the list of ignored files. -/
theorem select_failure?_eq_none {config : Config}
    (decided : ∀ path, ∃ ignored, config.isIgnored path = .ok ignored) (visits : List Visit) :
    (config.select visits).failure? = none := by
  induction visits with
  | nil => rfl
  | cons visit rest inductionHypothesis =>
    cases visit with
    | unreachable path error => exact inductionHypothesis
    | directory path => exact inductionHypothesis
    | file path =>
      rcases decided path with ⟨ignored, answer⟩
      simp only [select, answer]
      split
      · cases ignored <;> exact inductionHypothesis
      · exact inductionHypothesis

end Config

/-- How a run can end once it is known which files are checked. -/
theorem Run.checkPaths_error? (files : Files) (format : ReportFormat) (options : RunOptions)
    (context : RunContext) (paths : List Bytes) :
    (Run.checkPaths files format options context paths).error? ∈
      [none, some .issuesFound, some .cancelled, some .sarifUnwritten, some .yamlUnwritten] := by
  unfold Run.checkPaths
  simp only
  split
  · simp
  · cases format <;> cases writable : context.writable <;>
      cases (Run.checkEach files _ options context 0 paths).failed <;>
      simp [Run.finish, writable]

namespace Config

/-- Reading a configuration file without an error makes the configuration usable: there is a
root and an extension, no element of the list of ignored files is missing, and it can be told of
every file whether it is ignored. So a run that has to search its files never fails for the
search, whatever the files are. -/
theorem read_makes_usable (config completed : Config) (files : Files) (path : Bytes)
    (given : path ≠ []) (success : config.read files path = (completed, .done)) :
    completed.root ≠ [] ∧ completed.extension ≠ [] ∧ none ∉ completed.ignoreFiles ∧
      (∀ file, ∃ ignored, completed.isIgnored file = .ok ignored) ∧
      ∀ (searched : Files) (options : RunOptions) (context : RunContext), options.paths = [] →
        ∃ outcome, run searched completed options context = some outcome ∧
          outcome.error? ∈ [none, some .issuesFound, some (.unknownFormat options.format),
            some .cancelled, some .sarifUnwritten, some .yamlUnwritten] := by
  have usable := readBy_usable given success
  refine ⟨usable.root_ne_nil, usable.extension_ne_nil, ?_, usable.isIgnored, ?_⟩
  · intro missing
    rcases usable.ready none missing with ⟨pattern, impossible, -⟩
    cases impossible
  · intro searched options context noPaths
    cases format : ReportFormat.ofName? options.format with
    | none =>
      exact ⟨{ error? := some (.unknownFormat options.format) }, by simp only [run, format],
        by simp⟩
    | some known =>
      have noFailure : (completed.search searched).failure? = none :=
        select_failure?_eq_none usable.isIgnored _
      let checked := Run.checkPaths searched known options context (completed.search searched).files
      refine ⟨{ checked with entries := (completed.search searched).entries ++ checked.entries },
        by simp only [run, format, noPaths, List.isEmpty_nil, if_true, noFailure, checked], ?_⟩
      have ending := Run.checkPaths_error? searched known options context
        (completed.search searched).files
      simp only [List.mem_cons, List.not_mem_nil, or_false] at ending ⊢
      rcases ending with clean | issues | cancelled | sarif | yaml
      · exact Or.inl clean
      · exact Or.inr (Or.inl issues)
      · exact Or.inr (Or.inr (Or.inr (Or.inl cancelled)))
      · exact Or.inr (Or.inr (Or.inr (Or.inr (Or.inl sarif))))
      · exact Or.inr (Or.inr (Or.inr (Or.inr (Or.inr yaml))))

/-- What a failed reading may leave: a missing element and a glob that is malformed. -/
def halfRead : Config where
  ignoreFiles := [none, some { text := utf8 "[", format := utf8 "glob" }]

/-- A directory with a configuration file that ignores by a glob with a class. -/
def globSettings : Memory :=
  Memory.put {} (utf8 "c.yaml") (utf8 "ignore_files:\n- pattern: a*[b-d]\n  pattern_format: glob\n")

theorem read_makes_usable_after_failure :
    ∃ completed, halfRead.read globSettings.view (utf8 "c.yaml") = (completed, .done) ∧
      none ∉ completed.ignoreFiles ∧
      ∃ ignored, completed.isIgnored (utf8 "app/[") = .ok ignored := by
  have success : (halfRead.read globSettings.view (utf8 "c.yaml")).2 = .done := by
    decide +kernel
  cases read : halfRead.read globSettings.view (utf8 "c.yaml") with
  | mk completed outcome =>
    rw [read] at success
    cases success
    have usable := read_makes_usable halfRead completed globSettings.view (utf8 "c.yaml")
      (by decide) read
    exact ⟨completed, rfl, usable.2.2.1, usable.2.2.2.1 (utf8 "app/[")⟩

end Config
end PhpLint
