import PhpLint.Files.Walk
import PhpLint.Proofs.Memory

namespace PhpLint

/-!
# Walking through a memory

A walk through a memory comes upon every file below its root and upon no other
file. Paths are compared part by part, and each part by its bytes; this is the
order of lists of byte strings. A walk sorts the names of each directory and
goes down at once, and so it comes upon the files in exactly this order.
-/

theorem Bytes.before_iff_lt (first second : Bytes) :
    Bytes.before first second = true ↔ first < second := by
  induction first generalizing second with
  | nil => cases second <;> simp [Bytes.before]
  | cons b rest inductionHypothesis =>
    cases second with
    | nil => simp [Bytes.before]
    | cons c others =>
      simp only [Bytes.before, Bool.or_eq_true, decide_eq_true_eq, Bool.and_eq_true, beq_iff_eq,
        inductionHypothesis, List.cons_lt_cons_iff]

theorem sortNames_perm (names : List Bytes) : (sortNames names).Perm names :=
  List.mergeSort_perm names _

theorem sortNames_sorted (names : List Bytes) : (sortNames names).Pairwise (· ≤ ·) := by
  have notAfter : ∀ first second : Bytes,
      (!Bytes.before second first) = true ↔ first ≤ second := by
    intro first second
    rw [Bool.not_eq_true', ← Bool.not_eq_true, Bytes.before_iff_lt, List.not_lt]
  refine (List.pairwise_mergeSort ?_ ?_ names).imp fun ordered => (notAfter _ _).mp ordered
  · intro first second third
    rw [notAfter, notAfter, notAfter]
    exact List.le_trans
  · intro first second
    rw [Bool.or_eq_true, notAfter, notAfter]
    exact List.le_total first second

/-- Different names come in strictly increasing order. -/
theorem sortNames_pairwise {names : List Bytes} (distinct : names.Nodup) :
    (sortNames names).Pairwise (· < ·) := by
  have different := (sortNames_perm names).nodup_iff.mpr distinct
  refine ((sortNames_sorted names).and different).imp ?_
  rintro first second ⟨atMost, notEqual⟩
  exact (List.le_iff_lt_or_eq.mp atMost).resolve_right notEqual

/-- The first path comes before the second when they are compared part by part. -/
def Precedes (first second : Bytes) : Prop :=
  (Location.ofPath first).parts < (Location.ofPath second).parts

/-- The paths of the files that have been visited. -/
def filePaths (visits : List Visit) : List Bytes :=
  visits.filterMap fun visit =>
    match visit with
    | .file path => some path
    | _ => none

namespace Files

/-- The files that a walk comes upon from a path. -/
def filesAt (files : Files) (fuel : Nat) (path : Bytes) : List Bytes :=
  match files.linkKind path with
  | .error _ => []
  | .ok .file => [path]
  | .ok .directory => filePaths (files.walkBelow fuel path)

variable {files : Files}

theorem filesAt_of_file {path : Bytes} (kind : files.linkKind path = .ok .file) (fuel : Nat) :
    files.filesAt fuel path = [path] := by
  rw [filesAt, kind]

theorem filesAt_of_directory {path : Bytes} (kind : files.linkKind path = .ok .directory)
    (fuel : Nat) : files.filesAt fuel path = filePaths (files.walkBelow fuel path) := by
  rw [filesAt, kind]

theorem filePaths_walk (files : Files) (root : Bytes) :
    filePaths (files.walk root) = files.filesAt files.depth root := by
  rw [walk, filesAt]
  cases files.linkKind root with
  | error error => rfl
  | ok kind => cases kind <;> rfl

/-- A directory is walked through name by name. -/
theorem filePaths_walkBelow {directory : Bytes} {names : List Bytes}
    (listed : files.names directory = .ok names) (fuel : Nat) :
    filePaths (files.walkBelow (fuel + 1) directory) =
      names.flatMap fun name => files.filesAt fuel (joinPath directory name) := by
  rw [filePaths, walkBelow, listed]
  simp only [List.filterMap_flatMap]
  congr 1
  funext name
  rw [filesAt]
  cases files.linkKind (joinPath directory name) with
  | error error => rfl
  | ok kind => cases kind <;> rfl

end Files

/-! ## What a walk sees -/

theorem Memory.filePaths_walkBelow (memory : Memory) (fuel : Nat) (directory : Bytes) :
    filePaths (memory.view.walkBelow (fuel + 1) directory) =
      (memory.namesIn directory).flatMap fun name =>
        memory.view.filesAt fuel (joinPath directory name) :=
  Files.filePaths_walkBelow rfl fuel

theorem Memory.kindOf_absent {memory : Memory} {path : Bytes} {parts : List Bytes}
    (located : Location.ofPath path = ⟨false, parts⟩) (noDotDot : Location.dotDot ∉ parts)
    (absent : ¬ memory.Has parts) : ∃ error, memory.kindOf path = .error error := by
  refine ⟨.failed .opening (spot parts).path .absent, ?_⟩
  simp [kindOf, openEntry, locate_eq_spot located noDotDot, lookup?_eq_none_iff.mpr absent,
    Except.map]

namespace Memory.Stores

variable {memory : Memory} {files : List (List Bytes)}

theorem kindOf_file (stores : memory.Stores files) {path : Bytes} {file : List Bytes}
    (located : Location.ofPath path = ⟨false, file⟩) (isFile : file ∈ files) :
    memory.kindOf path = .ok .file := by
  have present := stores.has_file isFile
  rcases present.lookup? with ⟨entry, member, same, found⟩
  have kind := stores.holds.isFile stores.apart member same (stores.nonempty file isFile) isFile
  simp [kindOf, openEntry, locate_eq_spot located (stores.no_dotDot present), found, kind,
    Except.map]

theorem kindOf_directory (stores : memory.Stores files) {path : Bytes} {parts : List Bytes}
    (located : Location.ofPath path = ⟨false, parts⟩) (present : memory.Has parts)
    (noFile : parts ∉ files) : memory.kindOf path = .ok .directory := by
  rcases present.lookup? with ⟨entry, member, same, found⟩
  have kind := stores.holds.isDirectory member same noFile
  simp [kindOf, openEntry, locate_eq_spot located (stores.no_dotDot present), found, kind,
    Except.map]

/-- The entries that a directory lists are those one name below it. -/
theorem isListed_iff (stores : memory.Stores files) {directory : Bytes}
    {parts : List Bytes} (located : Location.ofPath directory = ⟨false, parts⟩)
    (noDotDot : Location.dotDot ∉ parts) {entry : Entry} (member : entry ∈ memory.entries) :
    (entry.listed && entry.location != top && directoryOf entry.location = locate directory) =
        true ↔
      entry.location = spot (parts ++ [entry.location.base]) := by
  rcases stores.holds.fits entry member with ⟨others, same, -⟩
  have otherPlain : Location.dotDot ∉ others := stores.no_dotDot ⟨entry, member, same⟩
  rw [stores.holds.listed entry member, locate_eq_spot located noDotDot]
  simp only [Bool.true_and, Bool.and_eq_true, bne_iff_ne, decide_eq_true_eq]
  by_cases isTop : others = []
  · subst isTop
    constructor
    · rintro ⟨notTop, -⟩
      exact absurd same notTop
    · intro impossible
      have shape := spot_injective (same.symm.trans impossible)
      exact absurd shape.symm (by simp)
  · have base : entry.location.base = others.getLastD [] := by
      rw [same, spot_of_ne_nil isTop, Location.base]
    rw [base, same, directoryOf_spot isTop otherPlain]
    rcases List.eq_nil_or_concat others with impossible | ⟨start, last, concat⟩
    · exact absurd impossible isTop
    · rw [concat, List.concat_eq_append, List.dropLast_concat, List.getLastD_concat]
      constructor
      · rintro ⟨-, sameDirectory⟩
        rw [spot_injective sameDirectory]
      · intro sameSpot
        have parted := List.append_inj_left' (spot_injective sameSpot) rfl
        exact ⟨spot_ne_top (by simp), congrArg spot parted⟩

theorem mem_namesIn (stores : memory.Stores files) {directory : Bytes}
    {parts : List Bytes} (located : Location.ofPath directory = ⟨false, parts⟩)
    (noDotDot : Location.dotDot ∉ parts) (name : Bytes) :
    name ∈ memory.namesIn directory ↔ memory.Has (parts ++ [name]) := by
  rw [namesIn, (sortNames_perm _).mem_iff, List.mem_map]
  constructor
  · rintro ⟨entry, listed, rfl⟩
    rcases List.mem_filter.mp listed with ⟨member, isListed⟩
    exact ⟨entry, member, (stores.isListed_iff located noDotDot member).mp isListed⟩
  · rintro ⟨entry, member, same⟩
    have base : entry.location.base = name := by
      rw [same, spot_of_ne_nil (by simp), Location.base, List.getLastD_concat]
    refine ⟨entry, List.mem_filter.mpr ⟨member, ?_⟩, base⟩
    apply (stores.isListed_iff located noDotDot member).mpr
    rw [base]
    exact same

theorem namesIn_pairwise (stores : memory.Stores files) {directory : Bytes}
    {parts : List Bytes} (located : Location.ofPath directory = ⟨false, parts⟩)
    (noDotDot : Location.dotDot ∉ parts) : (memory.namesIn directory).Pairwise (· < ·) := by
  apply sortNames_pairwise
  apply List.pairwise_map.mpr
  refine (stores.holds.distinct.filter _).imp_of_mem ?_
  intro first second firstListed secondListed different sameBase
  rcases List.mem_filter.mp firstListed with ⟨firstMember, isFirst⟩
  rcases List.mem_filter.mp secondListed with ⟨secondMember, isSecond⟩
  apply different
  rw [(stores.isListed_iff located noDotDot firstMember).mp isFirst,
    (stores.isListed_iff located noDotDot secondMember).mp isSecond, sameBase]

/-! ## What a walk comes upon -/

/-- The directory of a walk, with the names that lead to it, and enough fuel to come to the end of
every file below it. -/
structure Reach (files : List (List Bytes)) (fuel : Nat) (directory : Bytes)
    (parts : List Bytes) : Prop where
  located : Location.ofPath directory = ⟨false, parts⟩
  no_dotDot : Location.dotDot ∉ parts
  enough : ∀ file ∈ files, parts <+: file → file.length ≤ parts.length + fuel

/-- What a walk sees at one name of a directory: the path of the name, and whether it leads to a
file or to a directory that is walked through with less fuel. -/
theorem visit_cases (stores : memory.Stores files) {fuel : Nat} {directory name : Bytes}
    {parts : List Bytes} (reach : Reach files (fuel + 1) directory parts)
    (present : memory.Has (parts ++ [name])) :
    joinPath directory name = Location.path ⟨false, parts ++ [name]⟩ ∧
      ((parts ++ [name] ∈ files ∧ memory.kindOf (joinPath directory name) = .ok .file) ∨
        (parts ++ [name] ∉ files ∧ memory.kindOf (joinPath directory name) = .ok .directory ∧
          Reach files fuel (joinPath directory name) (parts ++ [name]))) := by
  have allNames := stores.names_of_has present
  have isName := allNames name (List.mem_append_right parts List.mem_cons_self)
  have path := Location.joinPath_eq reach.located isName
  have located : Location.ofPath (joinPath directory name) = ⟨false, parts ++ [name]⟩ := by
    rw [path, Location.ofPath_path allNames]
  refine ⟨path, ?_⟩
  by_cases isFile : parts ++ [name] ∈ files
  · exact Or.inl ⟨isFile, stores.kindOf_file located isFile⟩
  · refine Or.inr ⟨isFile, stores.kindOf_directory located present isFile, located,
      stores.no_dotDot present, ?_⟩
    intro file member isPrefix
    have bound := reach.enough file member ((List.prefix_append parts [name]).trans isPrefix)
    simp only [List.length_append, List.length_singleton]
    omega

/-- A walk below a directory comes upon the files below it and upon no others. The induction
follows the recursion of the walk: each name of the directory either leads to a file, and then no
other file lies there, or to a directory that is walked through in turn. -/
theorem mem_walkBelow (stores : memory.Stores files) {fuel : Nat} {directory : Bytes}
    {parts : List Bytes} (reach : Reach files fuel directory parts) (path : Bytes) :
    path ∈ filePaths (memory.view.walkBelow fuel directory) ↔
      ∃ file ∈ files, parts <+: file ∧ parts ≠ file ∧ path = Location.path ⟨false, file⟩ := by
  induction fuel generalizing directory parts path with
  | zero =>
    constructor
    · intro impossible
      exact absurd impossible List.not_mem_nil
    · rintro ⟨file, isFile, isPrefix, different, -⟩
      exact absurd (isPrefix.eq_of_length_le (reach.enough file isFile isPrefix)) different
  | succ fuel inductionHypothesis =>
    rw [memory.filePaths_walkBelow, List.mem_flatMap]
    constructor
    · rintro ⟨name, listed, visited⟩
      have present := (stores.mem_namesIn reach.located reach.no_dotDot name).mp listed
      rcases stores.visit_cases reach present with
        ⟨joined, ⟨isFile, kind⟩ | ⟨-, kind, below⟩⟩
      · rw [Files.filesAt_of_file kind] at visited
        refine ⟨parts ++ [name], isFile, List.prefix_append parts [name], by simp, ?_⟩
        rw [List.mem_singleton.mp visited, joined]
      · rw [Files.filesAt_of_directory kind] at visited
        rcases (inductionHypothesis below path).mp visited with ⟨file, isFile, isPrefix, -, same⟩
        have isBelow := (List.prefix_append parts [name]).trans isPrefix
        refine ⟨file, isFile, isBelow, ?_, same⟩
        intro atDirectory
        have longer := isPrefix.length_le
        rw [← atDirectory, List.length_append, List.length_singleton] at longer
        omega
    · rintro ⟨file, isFile, ⟨rest, rfl⟩, different, rfl⟩
      cases rest with
      | nil => exact absurd (List.append_nil parts).symm different
      | cons name rest =>
        have isPrefix : parts ++ [name] <+: parts ++ name :: rest :=
          (List.prefix_append_right_inj parts).mpr ⟨rest, rfl⟩
        have present := stores.holds.has_of_prefix isFile isPrefix
        refine ⟨name, (stores.mem_namesIn reach.located reach.no_dotDot name).mpr present, ?_⟩
        rcases stores.visit_cases reach present with
          ⟨joined, ⟨alsoFile, kind⟩ | ⟨noFile, kind, below⟩⟩
        · rw [Files.filesAt_of_file kind, joined, stores.apart _ alsoFile _ isFile isPrefix]
          exact List.mem_cons_self
        · rw [Files.filesAt_of_directory kind]
          exact (inductionHypothesis below _).mpr
            ⟨_, isFile, isPrefix, fun same => noFile (same ▸ isFile), rfl⟩

/-- The files are come upon in the order of their paths. -/
theorem walkBelow_pairwise (stores : memory.Stores files) {fuel : Nat} {directory : Bytes}
    {parts : List Bytes} (reach : Reach files fuel directory parts) :
    (filePaths (memory.view.walkBelow fuel directory)).Pairwise Precedes := by
  induction fuel generalizing directory parts with
  | zero => exact List.Pairwise.nil
  | succ fuel inductionHypothesis =>
    have below : ∀ name ∈ memory.namesIn directory,
        ∀ path ∈ memory.view.filesAt fuel (joinPath directory name),
          ∃ rest, (Location.ofPath path).parts = parts ++ name :: rest := by
      intro name listed path visited
      have present := (stores.mem_namesIn reach.located reach.no_dotDot name).mp listed
      have located : ∀ file, file ∈ files →
          Location.ofPath (Location.path ⟨false, file⟩) = ⟨false, file⟩ :=
        fun file isFile => Location.ofPath_path (stores.names file isFile)
      rcases stores.visit_cases reach present with
        ⟨joined, ⟨isFile, kind⟩ | ⟨-, kind, deeper⟩⟩
      · rw [Files.filesAt_of_file kind] at visited
        rw [List.mem_singleton.mp visited, joined, located _ isFile]
        exact ⟨[], rfl⟩
      · rw [Files.filesAt_of_directory kind] at visited
        rcases (stores.mem_walkBelow deeper path).mp visited with
          ⟨file, isFile, ⟨rest, rfl⟩, -, rfl⟩
        rw [located _ isFile]
        exact ⟨rest, by simp⟩
    rw [memory.filePaths_walkBelow, List.pairwise_flatMap]
    constructor
    · intro name listed
      have present := (stores.mem_namesIn reach.located reach.no_dotDot name).mp listed
      rcases stores.visit_cases reach present with
        ⟨-, ⟨-, kind⟩ | ⟨-, kind, deeper⟩⟩
      · rw [Files.filesAt_of_file kind]
        exact List.pairwise_singleton _ _
      · rw [Files.filesAt_of_directory kind]
        exact inductionHypothesis deeper
    · refine (stores.namesIn_pairwise reach.located reach.no_dotDot).imp_of_mem ?_
      intro first second firstListed secondListed before path isFirst other isSecond
      rcases below first firstListed path isFirst with ⟨rest, firstParts⟩
      rcases below second secondListed other isSecond with ⟨others, secondParts⟩
      rw [Precedes, firstParts, secondParts]
      exact List.append_left_lt (List.cons_lt_cons_iff.mpr (Or.inl before))

end Memory.Stores
end PhpLint
