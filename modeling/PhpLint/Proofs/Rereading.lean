import PhpLint.Proofs.Breakdown
import PhpLint.Proofs.IgnoreSet

namespace PhpLint

/-!
# Reading a configuration file again

A configuration file is read into a configuration, and what it does not mention stays as it
was. Reading the same file again therefore starts from values that the first reading has
not seen: its own settings, the default values in place of empty texts, and patterns that
have been prepared. Each of these steps takes its own result as it is. A setting of the
file is applied in the same way both times, a default value is not empty, and preparing a
pattern a second time gives the same pattern.
-/

theorem Pattern.prepare_of_prepare {pattern prepared : Pattern}
    (success : pattern.prepare = .ok prepared) : prepared.prepare = .ok prepared := by
  rw [prepare_eq_of_spelling_eq (spelling_eq_of_prepare success)]
  exact success

namespace Config

/-- A list that has been prepared to its end is prepared again without a change. -/
theorem prepareAll_prepareAll {elements : List (Option Pattern)}
    (success : (prepareAll elements).2 = none) :
    prepareAll (prepareAll elements).1 = ((prepareAll elements).1, none) := by
  induction elements with
  | nil => rfl
  | cons element rest inductionHypothesis =>
    cases element with
    | none => cases success
    | some pattern =>
      simp only [prepareAll] at success ⊢
      cases preparation : pattern.prepare with
      | error error =>
        rw [preparation] at success
        cases success
      | ok prepared =>
        rw [preparation] at success
        simp only [prepareAll, Pattern.prepare_of_prepare preparation, inductionHypothesis success]

/-- A text, or a default value if the text is empty. -/
def orDefault (default text : Bytes) : Bytes :=
  if text.isEmpty then default else text

/-- A text that a file may set is filled in once, whether or not the file sets it. -/
theorem orDefault_getD_orDefault {default : Bytes} (nonempty : default ≠ [])
    (setting? : Option Bytes) (text : Bytes) :
    orDefault default (setting?.getD (orDefault default (setting?.getD text))) =
      orDefault default (setting?.getD text) := by
  cases setting? with
  | some setting => rfl
  | none =>
    simp only [Option.getD_none, orDefault]
    split
    · rw [if_neg (mt List.isEmpty_iff.mp nonempty)]
    · rfl

theorem defaultRoot_ne_nil : defaultRoot ≠ [] := by
  decide

theorem defaultExtension_ne_nil : defaultExtension ≠ [] := by
  decide

theorem withDefaults_eq (config : Config) :
    config.withDefaults =
      { root := orDefault defaultRoot config.root
        extension := orDefault defaultExtension config.extension
        ignoreFiles := config.ignoreFiles } :=
  rfl

theorem withDefaults_withDefaults (config : Config) :
    config.withDefaults.withDefaults = config.withDefaults := by
  have root := orDefault_getD_orDefault defaultRoot_ne_nil none config.root
  have extension := orDefault_getD_orDefault defaultExtension_ne_nil none config.extension
  simp only [Option.getD_none] at root extension
  rw [withDefaults_eq, withDefaults_eq, root, extension]

theorem complete_eq_done_iff {config completed : Config} :
    config.complete = (completed, .done) ↔
      (prepareAll config.ignoreFiles).2 = none ∧ completed = withDefaults
        { config with ignoreFiles := (prepareAll config.ignoreFiles).1 } := by
  unfold complete
  rcases prepareAll config.ignoreFiles with ⟨ignoreFiles, failure?⟩
  cases failure? with
  | none => simp [eq_comm]
  | some failure => cases failure <;> simp

/-- The same settings, applied to what they have led to, lead to the same again. -/
theorem complete_apply_of_complete_apply {config completed : Config} {settings : Settings}
    (success : (config.apply settings).complete = (completed, .done)) :
    (completed.apply settings).complete = (completed, .done) := by
  rcases complete_eq_done_iff.mp success with ⟨prepared, same⟩
  have listAgain : prepareAll (completed.apply settings).ignoreFiles =
      (completed.ignoreFiles, none) := by
    rw [same]
    cases listed : settings.ignoreFiles? with
    | none =>
      simp only [apply, listed, Option.getD_none, withDefaults] at prepared ⊢
      exact prepareAll_prepareAll prepared
    | some elements =>
      simp only [apply, listed, Option.getD_some, withDefaults] at prepared ⊢
      rw [← prepared]
  apply complete_eq_done_iff.mpr
  rw [listAgain]
  refine ⟨rfl, ?_⟩
  rw [same]
  simp only [withDefaults_eq, apply, orDefault_getD_orDefault defaultRoot_ne_nil,
    orDefault_getD_orDefault defaultExtension_ne_nil]

theorem readTextBy_readTextBy {decoder : Decoder} {config completed : Config} {text : Bytes}
    (success : config.readTextBy decoder text = (completed, .done)) :
    completed.readTextBy decoder text = (completed, .done) := by
  unfold readTextBy at success ⊢
  cases error : (decoder text).2 with
  | some reason =>
    simp only [error] at success
    cases success
  | none =>
    simp only [error] at success ⊢
    exact complete_apply_of_complete_apply success

/-- Reading a configuration file a second time changes nothing: if it has been read without an
error, whatever it was read into, then reading it into the result succeeds again and leaves the
root, the extension and the list of ignored files as they are. -/
theorem reading_again_changes_nothing (config completed : Config) (files : Files) (path : Bytes)
    (success : config.read files path = (completed, .done)) :
    completed.read files path = (completed, .done) := by
  cases path with
  | nil =>
    cases success
    rw [read, readBy, List.isEmpty_nil, if_pos rfl, withDefaults_withDefaults]
  | cons b rest =>
    cases content : files.read (b :: rest) with
    | ok text =>
      have readThere (start : Config) :
          start.read files (b :: rest) = start.readTextBy decode text := by
        simp only [read, readBy, List.isEmpty_cons, Bool.false_eq_true, if_false, content]
      rw [readThere] at success ⊢
      exact readTextBy_readTextBy success
    | error error =>
      rcases readBy_of_unreadable decode config (List.cons_ne_nil b rest) content with
        ⟨reason, ended⟩
      rw [← read, success] at ended
      cases ended

/-- What an earlier reading of another file may have left: no extension, and a pattern that has not
been prepared. -/
def leftOver : Config where
  root := utf8 "lib"
  ignoreFiles := [some { text := utf8 "b+", format := utf8 "regexp" }]

/-- A directory with a configuration file that sets the root to an empty text. -/
def emptyRootSettings : Memory :=
  Memory.put {} (utf8 "c.yaml") (utf8 "root: ''\nextension: .inc\n")

theorem reading_emptyRootSettings_again :
    ∃ completed, leftOver.read emptyRootSettings.view (utf8 "c.yaml") = (completed, .done) ∧
      completed.root = defaultRoot ∧ completed.extension = utf8 ".inc" ∧
      completed.ignoreFiles.length = 1 ∧
      completed.read emptyRootSettings.view (utf8 "c.yaml") = (completed, .done) := by
  have first : (leftOver.read emptyRootSettings.view (utf8 "c.yaml")).2 = .done ∧
      (leftOver.read emptyRootSettings.view (utf8 "c.yaml")).1.root = defaultRoot ∧
      (leftOver.read emptyRootSettings.view (utf8 "c.yaml")).1.extension = utf8 ".inc" ∧
      (leftOver.read emptyRootSettings.view (utf8 "c.yaml")).1.ignoreFiles.length = 1 := by
    decide +kernel
  cases read : leftOver.read emptyRootSettings.view (utf8 "c.yaml") with
  | mk completed outcome =>
    rw [read] at first
    rcases first with ⟨done, root, extension, length⟩
    cases done
    exact ⟨completed, rfl, root, extension, length,
      reading_again_changes_nothing leftOver completed _ _ read⟩

end Config
end PhpLint
