import PhpLint.Proofs.Changes
import PhpLint.Proofs.Search

namespace PhpLint

/-!
# Walking through what lies below a directory

A file lies below a directory if the names of directories lead to it from there. In a view
whose directories list proper names in order, and whose depth is a bound for all paths, a
walk comes upon exactly these files. Whatever is looked for among them, the first file that
is come upon is the one whose path comes first. Memories of names have such views, also
after files have been in the way of each other and after directories have been removed.
-/

/-! ## The files below a directory -/

namespace Files

/-- The file at the second path is what stands at the first one, or can be come to from there by the
names of directories. -/
inductive LiesBelow (files : Files) : Bytes → Bytes → Prop
  | here {path : Bytes} (kind : files.linkKind path = .ok .file) : LiesBelow files path path
  | through {directory name path : Bytes} {names : List Bytes}
      (kind : files.linkKind directory = .ok .directory)
      (listed : files.names directory = .ok names) (member : name ∈ names)
      (deeper : LiesBelow files (joinPath directory name) path) : LiesBelow files directory path

/-- What a walk relies on to come upon everything in the order of the paths. -/
structure Orderly (files : Files) : Prop where
  isName : ∀ {directory names}, files.names directory = .ok names →
    ∀ name ∈ names, Location.IsName name
  sorted : ∀ {directory names}, files.names directory = .ok names → names.Pairwise (· ≤ ·)
  length_lt_depth : ∀ {directory name kind}, Location.IsName name →
    files.linkKind (joinPath directory name) = .ok kind →
      (Location.ofPath directory).parts.length + 1 < files.depth

variable {files : Files}

/-- What a walk does at a path: there is nothing to come upon, or a file, or a directory that is
walked through with less fuel. -/
theorem filesAt_cases (files : Files) (fuel : Nat) (path : Bytes) :
    files.filesAt fuel path = [] ∨
      files.linkKind path = .ok .file ∧ files.filesAt fuel path = [path] ∨
      ∃ less names, less < fuel ∧ files.linkKind path = .ok .directory ∧
        files.names path = .ok names ∧
        files.filesAt fuel path =
          names.flatMap fun name => files.filesAt less (joinPath path name) := by
  cases kind : files.linkKind path with
  | error error =>
    refine Or.inl ?_
    rw [filesAt, kind]
  | ok found =>
    cases found with
    | file => exact Or.inr (Or.inl ⟨rfl, filesAt_of_file kind fuel⟩)
    | directory =>
      rw [filesAt_of_directory kind]
      cases fuel with
      | zero => exact Or.inl rfl
      | succ less =>
        cases listed : files.names path with
        | error error =>
          refine Or.inl ?_
          rw [walkBelow, listed]
          rfl
        | ok names =>
          exact Or.inr (Or.inr ⟨less, names, Nat.lt_succ_self less, rfl, rfl,
            filePaths_walkBelow listed less⟩)

/-- A walk comes upon files below its root only. -/
theorem liesBelow_of_mem_filesAt {fuel : Nat} {path file : Bytes}
    (visited : file ∈ files.filesAt fuel path) : files.LiesBelow path file := by
  induction fuel using Nat.strongRecOn generalizing path with
  | ind fuel inductionHypothesis =>
    rcases files.filesAt_cases fuel path with
      empty | ⟨kind, single⟩ | ⟨less, names, isLess, kind, listed, walked⟩
    · rw [empty] at visited
      exact absurd visited List.not_mem_nil
    · rw [single] at visited
      rw [List.mem_singleton.mp visited]
      exact .here kind
    · rw [walked] at visited
      rcases List.mem_flatMap.mp visited with ⟨name, member, deeper⟩
      exact .through kind listed member (inductionHypothesis less isLess deeper)

namespace LiesBelow

theorem exists_kind {path file : Bytes} (lies : files.LiesBelow path file) :
    ∃ kind, files.linkKind path = .ok kind := by
  cases lies with
  | here kind => exact ⟨_, kind⟩
  | through kind => exact ⟨_, kind⟩

/-- A walk comes upon every file below its root. With each name the paths get longer and the fuel
less, and no path is longer than the depth. -/
theorem mem_filesAt (orderly : files.Orderly) {path file : Bytes}
    (lies : files.LiesBelow path file) {fuel : Nat}
    (enough : files.depth ≤ (Location.ofPath path).parts.length + fuel) :
    file ∈ files.filesAt fuel path := by
  induction lies generalizing fuel with
  | here kind =>
    rw [filesAt_of_file kind]
    exact List.mem_cons_self
  | @through directory name file names kind listed member deeper inductionHypothesis =>
    have isName := orderly.isName listed name member
    rcases deeper.exists_kind with ⟨_, found⟩
    have bound := orderly.length_lt_depth isName found
    cases fuel with
    | zero => omega
    | succ fuel =>
      have longer : (Location.ofPath (joinPath directory name)).parts.length =
          (Location.ofPath directory).parts.length + 1 := by
        rw [Location.ofPath_joinPath directory isName, List.length_append, List.length_singleton]
      rw [filesAt_of_directory kind, filePaths_walkBelow listed]
      exact List.mem_flatMap.mpr ⟨name, member, inductionHypothesis (by omega)⟩

/-- The path of a file begins with the parts of what it lies below. -/
theorem parts_begin (orderly : files.Orderly) {path file : Bytes}
    (lies : files.LiesBelow path file) :
    (Location.ofPath path).parts <+: (Location.ofPath file).parts := by
  induction lies with
  | here => exact List.prefix_refl _
  | @through directory name file names kind listed member deeper inductionHypothesis =>
    rw [Location.ofPath_joinPath directory (orderly.isName listed name member)]
      at inductionHypothesis
    exact (List.prefix_append _ [name]).trans inductionHypothesis

end LiesBelow

theorem Orderly.mem_walk_iff (orderly : files.Orderly) {root file : Bytes} :
    file ∈ filePaths (files.walk root) ↔ files.LiesBelow root file := by
  rw [filePaths_walk]
  exact ⟨liesBelow_of_mem_filesAt, fun lies => lies.mem_filesAt orderly (Nat.le_add_left _ _)⟩

end Files

/-! ## The first file of a walk -/

/-- Whatever is looked for among some paths, the first one found comes before all others. -/
def FirstIsLeast (paths : List Bytes) : Prop :=
  ∀ (wanted : Bytes → Bool) (first : Bytes), paths.find? wanted = some first →
    ∀ other ∈ paths, wanted other = true → other = first ∨ Precedes first other

theorem firstIsLeast_nil : FirstIsLeast [] := by
  intro wanted first found
  cases found

theorem firstIsLeast_singleton (path : Bytes) : FirstIsLeast [path] := by
  intro wanted first found other member _
  have isFirst := List.mem_singleton.mp (List.mem_of_find?_eq_some found)
  rw [isFirst]
  exact Or.inl (List.mem_singleton.mp member)

/-- The same name may come twice. What is found there the second time has been found before. -/
theorem firstIsLeast_flatMap {names : List Bytes} (sorted : names.Pairwise (· ≤ ·))
    {visit : Bytes → List Bytes} (least : ∀ name ∈ names, FirstIsLeast (visit name))
    {parts : List Bytes} (begins : ∀ name ∈ names, ∀ path ∈ visit name,
      parts ++ [name] <+: (Location.ofPath path).parts) :
    FirstIsLeast (names.flatMap visit) := by
  induction names with
  | nil => exact firstIsLeast_nil
  | cons name rest inductionHypothesis =>
    rcases List.pairwise_cons.mp sorted with ⟨atMost, laterSorted⟩
    have later := inductionHypothesis laterSorted
      (fun other member => least other (List.mem_cons_of_mem name member))
      (fun other member => begins other (List.mem_cons_of_mem name member))
    have here := least name List.mem_cons_self
    intro wanted first found other member isWanted
    rw [List.flatMap_cons] at found member
    rw [List.find?_append] at found
    cases foundHere : (visit name).find? wanted with
    | none =>
      rw [foundHere, Option.none_or] at found
      have notHere : other ∉ visit name := fun isHere =>
        List.find?_eq_none.mp foundHere other isHere isWanted
      exact later wanted first found other ((List.mem_append.mp member).resolve_left notHere)
        isWanted
    | some path =>
      rw [foundHere, Option.some_or, Option.some.injEq] at found
      subst found
      rcases List.mem_append.mp member with isHere | isLater
      · exact here wanted path foundHere other isHere isWanted
      · rcases List.mem_flatMap.mp isLater with ⟨second, listed, isThere⟩
        rcases List.le_iff_lt_or_eq.mp (atMost second listed) with before | same
        · rcases begins name List.mem_cons_self path (List.mem_of_find?_eq_some foundHere) with
            ⟨front, pathParts⟩
          rcases begins second (List.mem_cons_of_mem name listed) other isThere with
            ⟨back, otherParts⟩
          refine Or.inr ?_
          rw [Precedes, ← pathParts, ← otherParts, List.append_assoc, List.append_assoc]
          exact List.append_left_lt (List.cons_lt_cons_iff.mpr (Or.inl before))
        · rw [← same] at isThere
          exact here wanted path foundHere other isThere isWanted

theorem Files.Orderly.firstIsLeast_filesAt {files : Files} (orderly : files.Orderly)
    (fuel : Nat) (path : Bytes) : FirstIsLeast (files.filesAt fuel path) := by
  induction fuel using Nat.strongRecOn generalizing path with
  | ind fuel inductionHypothesis =>
    rcases files.filesAt_cases fuel path with
      empty | ⟨-, single⟩ | ⟨less, names, isLess, -, listed, walked⟩
    · rw [empty]
      exact firstIsLeast_nil
    · rw [single]
      exact firstIsLeast_singleton path
    · rw [walked]
      apply firstIsLeast_flatMap (orderly.sorted listed)
        fun name _ => inductionHypothesis less isLess (joinPath path name)
      intro name member file visited
      have isBelow := (liesBelow_of_mem_filesAt visited).parts_begin orderly
      rwa [Location.ofPath_joinPath path (orderly.isName listed name member)] at isBelow

/-- A path that leads to a name in a directory is kept as it is. -/
theorem Memory.locate_joinPath (directory : Bytes) {name : Bytes}
    (isName : Location.IsName name) :
    Memory.locate (joinPath directory name) =
      ⟨(Location.ofPath directory).rooted, (Location.ofPath directory).parts ++ [name]⟩ := by
  have notUp : (Location.ofPath directory).parts ++ [name] ≠ [Location.dotDot] := by
    intro same
    rw [← List.nil_append [Location.dotDot]] at same
    exact isName.ne_dotDot (List.singleton_inj.mp (List.append_inj_right' same rfl))
  have notTop : (Location.ofPath directory).parts ++ [name] ≠ [] := by
    simp
  simp only [locate, Location.ofPath_joinPath directory isName, keep, notUp, notTop, decide_false,
    Bool.or_self, Bool.and_false, Bool.false_eq_true, if_false]

theorem Memory.OfNames.orderly {memory : Memory} (ofNames : memory.OfNames) :
    memory.view.Orderly where
  isName := by
    intro directory names listed name member
    cases listed
    exact ofNames.isName_of_mem_namesIn member
  sorted := by
    intro directory names listed
    cases listed
    exact sortNames_sorted _
  length_lt_depth := by
    intro directory name kind isName found
    cases entry? : memory.lookup? (locate (joinPath directory name)) with
    | none =>
      have missing : memory.view.linkKind (joinPath directory name) =
          .error (.failed .opening (locate (joinPath directory name)).path .absent) := by
        simp only [view, kindOf, openEntry, entry?, Except.map]
      rw [missing] at found
      cases found
    | some entry =>
      have bound := length_lt_depth_of_mem (List.mem_of_find?_eq_some entry?)
      rw [location_of_lookup? entry?, Memory.locate_joinPath directory isName,
        List.length_append, List.length_singleton] at bound
      exact bound

theorem Memory.Stores.ofNames {memory : Memory} {files : List (List Bytes)}
    (stores : memory.Stores files) : memory.OfNames := by
  intro entry member
  rcases stores.holds.fits entry member with ⟨parts, located, -⟩
  exact ⟨parts, located, stores.names_of_has ⟨entry, member, located⟩⟩

end PhpLint
