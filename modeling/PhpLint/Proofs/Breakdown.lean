import PhpLint.Files.Memory
import PhpLint.Proofs.Settings

namespace PhpLint
namespace Config

/-!
# Readings that break down

Reading a configuration file may break down, and there is only one way to it: the
list of ignored files has a null, and all patterns in front of it can be prepared.
A pattern in front of it that cannot be prepared ends the reading with an error, and
so does anything that is wrong with the text, even if it comes later.
-/

/-- The first element that cannot be prepared is missing. -/
def MissingFirst (elements : List (Option Pattern)) : Prop :=
  ∃ (patterns : List Pattern) (rest : List (Option Pattern)),
    elements = patterns.map some ++ none :: rest ∧
      ∀ pattern ∈ patterns, ∃ prepared, pattern.prepare = .ok prepared

theorem not_missingFirst_nil : ¬ MissingFirst [] := by
  intro missing
  rcases missing with ⟨patterns, rest, split, _⟩
  exact absurd split.symm (List.append_ne_nil_of_right_ne_nil _ (List.cons_ne_nil _ _))

theorem missingFirst_none (rest : List (Option Pattern)) : MissingFirst (none :: rest) :=
  ⟨[], rest, rfl, fun _ member => absurd member List.not_mem_nil⟩

/-- A pattern in front makes no difference if it can be prepared, and else it comes first. -/
theorem missingFirst_some_iff (pattern : Pattern) (rest : List (Option Pattern)) :
    MissingFirst (some pattern :: rest) ↔
      (∃ prepared, pattern.prepare = .ok prepared) ∧ MissingFirst rest := by
  constructor
  · intro missing
    rcases missing with ⟨patterns, later, split, prepared⟩
    cases patterns with
    | nil => cases split
    | cons first others =>
      cases split
      refine ⟨prepared pattern List.mem_cons_self, others, later, rfl, ?_⟩
      intro other member
      exact prepared other (List.mem_cons_of_mem pattern member)
  · intro both
    rcases both with ⟨first, patterns, later, split, prepared⟩
    refine ⟨pattern :: patterns, later, by rw [split]; rfl, ?_⟩
    intro other member
    rcases List.mem_cons.mp member with same | further
    · rw [same]
      exact first
    · exact prepared other further

theorem prepareAll_eq_elementMissing_iff (elements : List (Option Pattern)) :
    (prepareAll elements).2 = some .elementMissing ↔ MissingFirst elements := by
  induction elements with
  | nil =>
    have none : (prepareAll []).2 ≠ some .elementMissing := by
      intro impossible
      cases impossible
    exact iff_of_false none not_missingFirst_nil
  | cons element rest inductionHypothesis =>
    cases element with
    | none => exact ⟨fun _ => missingFirst_none rest, fun _ => rfl⟩
    | some pattern =>
      rw [missingFirst_some_iff, ← inductionHypothesis]
      cases prepared : pattern.prepare with
      | error error => simp [prepareAll, prepared]
      | ok ready => simp [prepareAll, prepared]

/-! ## From the list to the file -/

theorem complete_eq_brokeDown_iff (config : Config) :
    config.complete.2 = .brokeDown ↔ MissingFirst config.ignoreFiles := by
  rw [← prepareAll_eq_elementMissing_iff]
  unfold complete
  cases failure : (prepareAll config.ignoreFiles).2 with
  | none => simp [failure]
  | some reason => cases reason <;> simp [failure]

section

variable (decoder : Decoder)

theorem readTextBy_eq_brokeDown_iff (config : Config) (text : Bytes) :
    (config.readTextBy decoder text).2 = .brokeDown ↔
      ∃ settings, decoder text = (settings, none) ∧
        MissingFirst (config.apply settings).ignoreFiles := by
  unfold readTextBy
  cases decoded : decoder text with
  | mk settings error? =>
    cases error? with
    | some error => simp
    | none => simp [complete_eq_brokeDown_iff]

/-- A file that cannot be read is an error. -/
theorem readBy_of_unreadable (config : Config) {files : Files} {path : Bytes} {error : FileError}
    (given : path ≠ []) (content : files.read path = .error error) :
    ∃ reason, (config.readBy decoder files path).2 = .failed reason := by
  have notEmpty : path.isEmpty = false := by simpa using given
  simp only [readBy, notEmpty, Bool.false_eq_true, if_false, content]
  split
  · exact ⟨_, rfl⟩
  · exact ⟨_, rfl⟩
  · next readable => cases readable

/-- Into whatever configuration a file is read, the reading only breaks down at the list that
results from it. -/
theorem readBy_eq_brokeDown_iff (config : Config) (files : Files) (path : Bytes) :
    (config.readBy decoder files path).2 = .brokeDown ↔
      path ≠ [] ∧ ∃ text settings, files.read path = .ok text ∧
        decoder text = (settings, none) ∧ MissingFirst (config.apply settings).ignoreFiles := by
  cases path with
  | nil => simp [readBy]
  | cons b rest =>
    cases content : files.read (b :: rest) with
    | ok text => simp [readBy, content, readTextBy_eq_brokeDown_iff]
    | error error =>
      rcases readBy_of_unreadable decoder config (List.cons_ne_nil b rest) content with
        ⟨reason, ended⟩
      simp [ended]

/-- The list of a fresh configuration is empty, so an element that is missing comes from the
settings. -/
theorem fresh_readBy_eq_brokeDown_iff (files : Files) (path : Bytes) :
    (({} : Config).readBy decoder files path).2 = .brokeDown ↔
      path ≠ [] ∧ ∃ text settings elements, files.read path = .ok text ∧
        decoder text = (settings, none) ∧ settings.ignoreFiles? = some elements ∧
        MissingFirst elements := by
  rw [readBy_eq_brokeDown_iff]
  constructor
  · rintro ⟨given, text, settings, content, decoded, missing⟩
    cases listed : settings.ignoreFiles? with
    | none =>
      simp only [apply, listed, Option.getD_none] at missing
      exact absurd missing not_missingFirst_nil
    | some elements =>
      simp only [apply, listed, Option.getD_some] at missing
      exact ⟨given, text, settings, elements, content, decoded, listed, missing⟩
  · rintro ⟨given, text, settings, elements, content, decoded, listed, missing⟩
    refine ⟨given, text, settings, content, decoded, ?_⟩
    simp only [apply, listed, Option.getD_some]
    exact missing

end

/-- Reading into a fresh configuration ends well or with an error, except in one case. Whatever it
is that tells the settings of a text, the reading breaks down exactly if it has nothing to object
to the file and makes a list of ignored files of it with a missing element, and every pattern in
front of that can be prepared. With settings that are told by YAML the list is that of a sequence
in the document, where a null stands for the missing element. -/
theorem fresh_read_breaks_down_iff (files : Files) (path : Bytes) :
    (∀ decoder : Decoder,
      (({} : Config).readBy decoder files path).2 = .brokeDown ↔
        path ≠ [] ∧ ∃ text settings elements, files.read path = .ok text ∧
          decoder text = (settings, none) ∧ settings.ignoreFiles? = some elements ∧
          MissingFirst elements) ∧
    ((({} : Config).read files path).2 = .brokeDown →
      ∃ text document settings elements node line tag items, files.read path = .ok text ∧
        Yaml.readDocument text = some (some document) ∧ decode text = (settings, none) ∧
        settings.ignoreFiles? = some elements ∧ Settings.Sets document (utf8 "ignore_files") node ∧
        document.resolve? node = some (.sequence line tag items) ∧
        List.Forall₂ (Settings.IsElement document) items elements ∧ MissingFirst elements) := by
  refine ⟨fun decoder => fresh_readBy_eq_brokeDown_iff decoder files path, ?_⟩
  intro breaksDown
  rcases (fresh_readBy_eq_brokeDown_iff decode files path).mp breaksDown with
    ⟨_, text, settings, elements, content, decoded, listed, missing⟩
  rcases listIsHeld_of_decode decoded listed with ⟨document, isDocument, node, sets, held⟩
  rcases held with empty | ⟨line, tag, items, resolved, each⟩
  · rw [empty] at missing
    exact absurd missing not_missingFirst_nil
  · exact ⟨text, document, settings, elements, node, line, tag, items, content, isDocument, decoded,
      listed, sets, resolved, each, missing⟩

/-- A directory with a configuration file whose list of ignored files has a null only. -/
def nullSettings : Memory :=
  Memory.put {} (utf8 "c.yaml") (utf8 "ignore_files: [null]\n")

theorem fresh_read_breaks_down_at_null :
    (({} : Config).read nullSettings.view (utf8 "c.yaml")).2 = .brokeDown := by
  decide +kernel

end Config
end PhpLint
