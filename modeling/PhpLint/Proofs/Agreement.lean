import PhpLint.Proofs.Cancellation
import PhpLint.Proofs.Search

namespace PhpLint

/-!
# Views that agree

A run sees of the files only what it asks for. A walk asks about its root and about what
it comes to from there by the names of directories, and the files that are found are then
read. If two views give the same answers at all these paths, nothing can tell them apart:
they are walked and searched alike, and a run ends alike on both of them.
-/

namespace Files

/-- Two views give the same answers at certain paths, and no walk leads out of them. The depth of
the views only counts if there is something at one of the paths. -/
structure Agree (files others : Files) (inside : Bytes → Prop) : Prop where
  linkKind : ∀ path, inside path → others.linkKind path = files.linkKind path
  read : ∀ path, inside path → others.read path = files.read path
  names : ∀ path, inside path → others.names path = files.names path
  depth : ∀ path kind, inside path → files.linkKind path = .ok kind → others.depth = files.depth
  below : ∀ path names, inside path → files.names path = .ok names →
    ∀ name ∈ names, inside (joinPath path name)

namespace Agree

variable {files others : Files} {inside : Bytes → Prop}

theorem walkBelow_eq (agree : files.Agree others inside) (fuel : Nat) {directory : Bytes}
    (isInside : inside directory) :
    others.walkBelow fuel directory = files.walkBelow fuel directory := by
  induction fuel generalizing directory with
  | zero => rfl
  | succ fuel inductionHypothesis =>
    rw [walkBelow, walkBelow, agree.names directory isInside]
    cases listed : files.names directory with
    | error error => rfl
    | ok names =>
      apply List.flatMap_congr
      intro name member
      have stays := agree.below directory names isInside listed name member
      simp only [agree.linkKind _ stays]
      cases files.linkKind (joinPath directory name) with
      | error error => rfl
      | ok kind =>
        cases kind with
        | file => rfl
        | directory => simp only [inductionHypothesis stays]

theorem walk_eq (agree : files.Agree others inside) {root : Bytes} (isInside : inside root) :
    others.walk root = files.walk root := by
  rw [walk, walk, agree.linkKind root isInside]
  cases kind : files.linkKind root with
  | error error => rfl
  | ok found =>
    cases found with
    | file => rfl
    | directory =>
      simp only [agree.depth root .directory isInside kind,
        agree.walkBelow_eq files.depth isInside]

theorem inside_of_mem_walkBelow (agree : files.Agree others inside) {fuel : Nat}
    {directory path : Bytes} (isInside : inside directory)
    (visited : .file path ∈ files.walkBelow fuel directory) : inside path := by
  induction fuel generalizing directory with
  | zero => exact absurd visited List.not_mem_nil
  | succ fuel inductionHypothesis =>
    rw [walkBelow] at visited
    cases listed : files.names directory with
    | error error =>
      rw [listed] at visited
      cases List.mem_singleton.mp visited
    | ok names =>
      rw [listed] at visited
      rcases List.mem_flatMap.mp visited with ⟨name, member, here⟩
      have stays := agree.below directory names isInside listed name member
      simp only at here
      split at here
      · cases List.mem_singleton.mp here
      · cases List.mem_singleton.mp here
        exact stays
      · rcases List.mem_cons.mp here with impossible | later
        · cases impossible
        · exact inductionHypothesis stays later

/-- A walk from one of the paths comes upon files at these paths only. -/
theorem inside_of_mem_walk (agree : files.Agree others inside) {root path : Bytes}
    (isInside : inside root) (visited : .file path ∈ files.walk root) : inside path := by
  rw [walk] at visited
  split at visited
  · cases List.mem_singleton.mp visited
  · cases List.mem_singleton.mp visited
    exact isInside
  · rcases List.mem_cons.mp visited with impossible | later
    · cases impossible
    · exact agree.inside_of_mem_walkBelow isInside later

end Agree
end Files

theorem mem_filePaths_iff {path : Bytes} {visits : List Visit} :
    path ∈ filePaths visits ↔ .file path ∈ visits := by
  rw [filePaths, List.mem_filterMap]
  constructor
  · rintro ⟨visit, member, isPath⟩
    split at isPath
    · cases isPath
      exact member
    · cases isPath
  · intro member
    exact ⟨.file path, member, rfl⟩

/-! ## Runs on views that agree -/

namespace Run

variable {files others : Files} {config : Config} {options : RunOptions} {context : RunContext}
  {format : ReportFormat}

theorem checkEach_eq_of_checkFile_eq {paths : List Bytes}
    (same : ∀ path ∈ paths, checkFile others path = checkFile files path) (asked : Nat) :
    checkEach others format options context asked paths =
      checkEach files format options context asked paths := by
  induction paths generalizing asked with
  | nil => rfl
  | cons path rest inductionHypothesis =>
    have here := same path List.mem_cons_self
    have later := inductionHypothesis fun other member =>
      same other (List.mem_cons_of_mem path member)
    rw [checkEach, checkEach, here, later]

/-- A run that has to search depends on what is found and on what is read there. -/
theorem run_eq_of_search_eq (searched : options.paths = [])
    (sameSearch : config.search others = config.search files)
    (sameFiles : ∀ path ∈ (config.search files).files, others.read path = files.read path) :
    run others config options context = run files config options context := by
  have sameChecks (format : ReportFormat) :
      checkPaths others format options context (config.search files).files =
        checkPaths files format options context (config.search files).files := by
    have sameEach : checkEach others format options context 0 (config.search files).files =
        checkEach files format options context 0 (config.search files).files :=
      checkEach_eq_of_checkFile_eq
        (fun path found => checkFile_eq_of_read_eq (sameFiles path found)) 0
    rw [checkPaths, checkPaths, sameEach]
  unfold run
  simp only [searched, sameSearch, sameChecks, List.isEmpty_nil, if_true]

theorem run_eq_of_agree {inside : Bytes → Prop} (agree : files.Agree others inside)
    (isInside : inside config.root) (searched : options.paths = []) :
    run others config options context = run files config options context := by
  apply run_eq_of_search_eq searched
  · rw [Config.search, Config.search, agree.walk_eq isInside]
  · intro path found
    have walked := (config.select_sublist (files.walk config.root)).subset found
    exact agree.read path (agree.inside_of_mem_walk isInside (mem_filePaths_iff.mp walked))

end Run
end PhpLint
