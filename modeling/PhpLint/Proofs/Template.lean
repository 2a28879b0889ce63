import PhpLint.Config.Read
import PhpLint.Config.Template
import PhpLint.Proofs.Agreement
import PhpLint.Proofs.Changes
import PhpLint.Proofs.Comments

namespace PhpLint

/-!
# A new configuration file

The file that a new project starts from has comments only. Reading it gives the standard
configuration, which is also what counts without any configuration file. The file stands
in the top directory, and a search with the standard configuration goes through another
directory. So creating the file makes no difference to a run that has to search its files.
-/

/-- A path leads to a directory with a name in the top directory, or to something below it. -/
def LiesIn (name path : Bytes) : Prop :=
  ∃ rest, Location.ofPath path = ⟨false, name :: rest⟩ ∧
    ∀ part ∈ name :: rest, Location.IsName part

namespace LiesIn

variable {name path : Bytes}

theorem self (isName : Location.IsName name) : LiesIn name name := by
  refine ⟨[], Location.ofPath_of_isName isName, ?_⟩
  intro part member
  rwa [List.mem_singleton.mp member]

theorem locate_eq (liesIn : LiesIn name path) :
    ∃ rest, Memory.locate path = ⟨false, name :: rest⟩ := by
  rcases liesIn with ⟨rest, located, names⟩
  refine ⟨rest, ?_⟩
  rw [Memory.locate_eq_spot located fun member => (names _ member).ne_dotDot rfl]
  exact Memory.spot_of_ne_nil (List.cons_ne_nil name rest)

/-- A walk that goes down from there stays there. -/
theorem joinPath (liesIn : LiesIn name path) {other : Bytes} (isName : Location.IsName other) :
    LiesIn name (PhpLint.joinPath path other) := by
  rcases liesIn with ⟨rest, located, names⟩
  have allNames : ∀ part ∈ name :: (rest ++ [other]), Location.IsName part := by
    intro part member
    rw [← List.cons_append] at member
    rcases List.mem_append.mp member with old | new
    · exact names part old
    · rw [List.mem_singleton.mp new]
      exact isName
  refine ⟨rest ++ [other], ?_, allNames⟩
  rw [Location.joinPath_eq located isName]
  exact Location.ofPath_path allNames

end LiesIn

namespace Memory

/-- A file in the top directory and the top directory itself. -/
def newInTop (name : Bytes) : List Location :=
  [⟨false, [name]⟩, top]

variable {memory others : Memory} {name directory : Bytes}

theorem directoryOf_of_mem_newInTop {location : Location} (member : location ∈ newInTop name) :
    directoryOf location = top := by
  rcases List.mem_cons.mp member with rfl | later
  · rfl
  · rw [List.mem_singleton.mp later]
    rfl

theorem length_le_of_mem_newInTop {location : Location} (member : location ∈ newInTop name) :
    location.parts.length ≤ 1 := by
  rcases List.mem_cons.mp member with rfl | later
  · exact Nat.le_refl 1
  · rw [List.mem_singleton.mp later]
    exact Nat.zero_le 1

theorem not_mem_newInTop (different : directory ≠ name) (rest : List Bytes) :
    (⟨false, directory :: rest⟩ : Location) ∉ newInTop name := by
  simp [newInTop, top, different]

/-- If memories only differ in a file of the top directory, they look the same inside of another
directory. -/
theorem agree_of_away_eq (ofNames : memory.OfNames) (different : directory ≠ name)
    (same : others.away (newInTop name) = memory.away (newInTop name)) :
    memory.view.Agree others.view (LiesIn directory) := by
  have opened : ∀ path, LiesIn directory path →
      others.openEntry path = memory.openEntry path := by
    intro path liesIn
    rcases liesIn.locate_eq with ⟨rest, place⟩
    apply openEntry_eq_of_away_eq same
    rw [place]
    exact not_mem_newInTop different rest
  have kinds : ∀ path, LiesIn directory path → others.kindOf path = memory.kindOf path := by
    intro path liesIn
    rw [kindOf, kindOf, opened path liesIn]
  refine ⟨kinds, ?_, ?_, ?_, ?_⟩
  · intro path liesIn
    simp only [view, opened path liesIn]
  · intro path liesIn
    rcases liesIn.locate_eq with ⟨rest, place⟩
    have names : others.namesIn path = memory.namesIn path := by
      apply namesIn_eq_of_away_eq same
      intro location member _
      rw [directoryOf_of_mem_newInTop member, place]
      intro impossible
      cases impossible
    simp only [view, names]
  · intro path kind liesIn present
    rcases liesIn.locate_eq with ⟨rest, place⟩
    -- what stands at the path is at least as deep as the new file
    cases found : memory.lookup? (locate path) with
    | none =>
      simp only [view, kindOf, openEntry, found] at present
      cases present
    | some entry =>
      have located : entry.location = ⟨false, directory :: rest⟩ := by
        rw [← place]
        simpa using List.find?_some found
      have member : entry ∈ memory.away (newInTop name) := by
        apply mem_away_iff.mpr
        refine ⟨List.mem_of_find?_eq_some found, ?_⟩
        rw [located]
        exact not_mem_newInTop different rest
      have deep : 1 ≤ entry.location.parts.length := by
        rw [located]
        exact Nat.succ_le_succ (Nat.zero_le _)
      exact depth_eq_of_away_eq same (fun _ => length_le_of_mem_newInTop) member deep
  · intro path names liesIn listed other member
    cases listed
    exact liesIn.joinPath (ofNames.isName_of_mem_namesIn member)

theorem away_put_of_isName (content : Bytes) (isName : Location.IsName name) :
    (memory.put name content).away (newInTop name) = memory.away (newInTop name) := by
  have noDotDot : Location.dotDot ∉ [name] := fun member =>
    isName.ne_dotDot (List.mem_singleton.mp member).symm
  apply away_put
  · intro location member
    rw [directoryOf_of_mem_newInTop member]
    exact List.mem_cons_of_mem _ List.mem_cons_self
  · rw [locate_eq_spot (Location.ofPath_of_isName isName) noDotDot,
      spot_of_ne_nil (List.cons_ne_nil name [])]
    exact List.mem_cons_self

/-- A file in the top directory makes no difference to a run that searches another directory. -/
theorem run_put_of_isName (ofNames : memory.OfNames) (content : Bytes)
    (isName : Location.IsName name) {config : Config} (rootIsName : Location.IsName config.root)
    (different : config.root ≠ name) {options : RunOptions} {context : RunContext}
    (searched : options.paths = []) :
    run (memory.put name content).view config options context =
      run memory.view config options context := by
  have agree := agree_of_away_eq ofNames different (away_put_of_isName content isName)
  exact Run.run_eq_of_agree agree (LiesIn.self rootIsName) searched

end Memory

theorem Template.create_of_absent {memory : Memory} {path : Bytes}
    (writable : memory.readOnly = false) (absent : memory.view.exists? path = .ok false) :
    Template.create memory path = .ok (memory.put path Template.content) := by
  have written : FileStore.write memory path content = .ok (memory.put path content) :=
    if_neg (Bool.eq_false_iff.mp writable)
  have absentInStore : (FileStore.view memory).exists? path = .ok false := absent
  rw [create, absentInStore]
  simp only [written]

/-! ## The configuration -/

namespace Config

theorem decode_template : decode Template.content = ({}, none) := by
  rw [Template.content]
  apply decode_of_areComments
  simp only [String.toList_append]
  -- every line of the file is tested on its own
  repeat' with_reducible apply Yaml.areComments_append
  all_goals
    rw [String.toList_ofList]
    decide

theorem readTextBy_template :
    ({} : Config).readTextBy decode Template.content = (.standard, .done) := by
  rw [readTextBy, decode_template]
  rfl

theorem firstExisting_of_absent {files : Files} {candidates : List Bytes}
    (absent : ∀ candidate ∈ candidates, files.exists? candidate = .ok false) :
    firstExisting files candidates = .ok [] := by
  induction candidates with
  | nil => rfl
  | cons candidate rest inductionHypothesis =>
    rw [firstExisting, absent candidate List.mem_cons_self]
    exact inductionHypothesis fun other member => absent other (List.mem_cons_of_mem _ member)

/-- Nothing is ignored without a configuration file, so every search succeeds. -/
theorem targets?_standard {files : Files} {options : RunOptions} (searched : options.paths = []) :
    Run.targets? files .standard options = some (standard.search files).files := by
  have noFailure : (standard.search files).failure? = none :=
    select_failure?_eq_none (fun _ => ⟨false, rfl⟩) _
  rw [Run.targets?, searched, List.isEmpty_nil, if_pos rfl, noFailure]

end Config

/-- In a writable memory of names without any configuration file, one is created from the template.
It is the one that is found from then on, and reading it gives the standard configuration, as
before. A run that searches its files ends with the same output, error and log as before. -/
theorem creating_template_changes_no_run (memory : Memory) (ofNames : memory.OfNames)
    (writable : memory.readOnly = false)
    (absent : ∀ candidate ∈ Config.candidates, memory.view.exists? candidate = .ok false) :
    ∃ created : Memory, Template.create memory (utf8 ".phpsanity.yaml") = .ok created ∧
      Config.find memory.view [] = .ok [] ∧
      ({} : Config).read memory.view [] = (.standard, .done) ∧
      Config.find created.view [] = .ok (utf8 ".phpsanity.yaml") ∧
      ({} : Config).read created.view (utf8 ".phpsanity.yaml") = (.standard, .done) ∧
      ∀ (options : RunOptions) (context : RunContext), options.paths = [] →
        ∃ outcome, run memory.view .standard options context = some outcome ∧
          run created.view .standard options context = some outcome := by
  have first : utf8 ".phpsanity.yaml" ∈ Config.candidates := List.mem_cons_self
  have isName : Location.IsName (utf8 ".phpsanity.yaml") := by
    constructor <;> decide
  have rootIsName : Location.IsName Config.standard.root := by
    constructor <;> decide
  have different : Config.standard.root ≠ utf8 ".phpsanity.yaml" := by
    decide
  refine ⟨memory.put (utf8 ".phpsanity.yaml") Template.content,
    Template.create_of_absent writable (absent _ first), Config.firstExisting_of_absent absent, rfl,
    ?_, ?_, ?_⟩
  · rw [Config.find, List.isEmpty_nil, if_pos rfl, Config.candidates, Config.firstExisting,
      Memory.exists?_put]
  · have notEmpty : ¬ (utf8 ".phpsanity.yaml").isEmpty = true := by
      decide
    rw [Config.read, Config.readBy, if_neg notEmpty, Memory.read_put]
    exact Config.readTextBy_template
  · intro options context searched
    rcases Run.exists_outcome_of_resolved (Config.targets?_standard searched) with ⟨outcome, ran⟩
    refine ⟨outcome, ran, ?_⟩
    rw [Memory.run_put_of_isName ofNames Template.content isName rootIsName different searched]
    exact ran

/-- Files with and without findings, a directory with nothing in it and a configuration file. -/
def configuredProject : Memory :=
  let checked := (Memory.put {} (utf8 "app/a.php") (utf8 "\x7d")).put (utf8 "app/lib/b.php")
    (utf8 "<?php\n")
  (checked.makeDirectory (utf8 "app/views")).put (utf8 ".phpsanity.yaml") (utf8 "root: lib\n")

theorem configuredProject_ofNames : configuredProject.OfNames := by
  apply Memory.OfNames.put _ ⟨rfl, by decide⟩
  apply Memory.OfNames.makeDirectory _ ⟨rfl, by decide⟩
  apply Memory.OfNames.put _ ⟨rfl, by decide⟩
  apply Memory.OfNames.put _ ⟨rfl, by decide⟩
  exact Memory.ofNames_empty

theorem creating_template_after_removal :
    ∃ removed created : Memory,
      configuredProject.remove (utf8 ".phpsanity.yaml") = .ok removed ∧
      Template.create removed (utf8 ".phpsanity.yaml") = .ok created ∧
      Config.find created.view [] = .ok (utf8 ".phpsanity.yaml") ∧
      ({} : Config).read created.view (utf8 ".phpsanity.yaml") = (.standard, .done) ∧
      ∃ outcome, run removed.view .standard {} {} = some outcome ∧
        run created.view .standard {} {} = some outcome := by
  have evaluated : (configuredProject.remove (utf8 ".phpsanity.yaml")).map
      (fun removed => decide (removed.readOnly = false ∧
        ∀ candidate ∈ Config.candidates, removed.view.exists? candidate = .ok false)) =
        .ok true := by
    decide +kernel
  cases success : configuredProject.remove (utf8 ".phpsanity.yaml") with
  | error error =>
    rw [success] at evaluated
    cases evaluated
  | ok removed =>
    rw [success] at evaluated
    have ready := of_decide_eq_true (Except.ok.inj evaluated)
    rcases creating_template_changes_no_run removed (configuredProject_ofNames.remove success)
      ready.1 ready.2 with ⟨created, isCreated, -, -, found, read, sameRuns⟩
    exact ⟨removed, created, rfl, isCreated, found, read, sameRuns {} {} rfl⟩

end PhpLint
