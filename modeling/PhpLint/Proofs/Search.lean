import PhpLint.Proofs.Check
import PhpLint.Proofs.Usable
import PhpLint.Proofs.Walk

namespace PhpLint

/-!
# Searching a memory

On a memory to which files have been written, a search finds exactly the files at
or below its root that have the extension and are not ignored, each of them once
and in the order of their paths. What is found depends on the files alone and
not on how they came into the memory.
-/

namespace Memory

theorem length_lt_depth_of_mem {memory : Memory} {entry : Entry}
    (member : entry ∈ memory.entries) : entry.location.parts.length < memory.depth := by
  have counted : entry.location.parts.length ∈
      memory.entries.map fun entry => entry.location.parts.length :=
    List.mem_map_of_mem member
  have bound := List.le_max_of_mem counted
  rw [depth, List.foldl_max_eq_max (List.ne_nil_of_mem counted)]
  omega

theorem Has.length_lt_depth {memory : Memory} {parts : List Bytes} (present : memory.Has parts) :
    parts.length < memory.depth := by
  rcases present with ⟨entry, member, located⟩
  have atMost : parts.length ≤ entry.location.parts.length := by
    rw [located, spot]
    split
    · next isTop => rw [isTop]; exact Nat.zero_le _
    · exact Nat.le_refl _
  exact Nat.lt_of_le_of_lt atMost (length_lt_depth_of_mem member)

end Memory

/-- How the file that some names lead to is reported. The root of a walk is reported as it was
given. -/
def reportedPath (root : Bytes) (file : List Bytes) : Bytes :=
  if (Location.ofPath root).parts = file then root else Location.path ⟨false, file⟩

namespace Memory.Stores

variable {memory : Memory} {files : List (List Bytes)} {root : Bytes}

theorem ofPath_reportedPath (stores : memory.Stores files) (plain : (Location.ofPath root).Plain)
    {file : List Bytes} (isFile : file ∈ files) :
    Location.ofPath (reportedPath root file) = ⟨false, file⟩ := by
  unfold reportedPath
  split
  · next same => rw [← same]; exact plain.ofPath_eq
  · exact Location.ofPath_path (stores.names file isFile)

/-- The three kinds of walks: the root is a file, a directory, or missing. -/
theorem walk_cases (stores : memory.Stores files) (plain : (Location.ofPath root).Plain) :
    ((Location.ofPath root).parts ∈ files ∧ filePaths (memory.view.walk root) = [root]) ∨
      ((Location.ofPath root).parts ∉ files ∧ memory.Has (Location.ofPath root).parts ∧
        filePaths (memory.view.walk root) =
          filePaths (memory.view.walkBelow memory.depth root)) ∨
      (¬ memory.Has (Location.ofPath root).parts ∧ filePaths (memory.view.walk root) = []) := by
  by_cases present : memory.Has (Location.ofPath root).parts
  · by_cases isFile : (Location.ofPath root).parts ∈ files
    · have kind : memory.view.linkKind root = .ok .file :=
        stores.kindOf_file plain.ofPath_eq isFile
      exact Or.inl ⟨isFile, by simp only [Files.walk, kind]; rfl⟩
    · have kind : memory.view.linkKind root = .ok .directory :=
        stores.kindOf_directory plain.ofPath_eq present isFile
      exact Or.inr (Or.inl ⟨isFile, present, by simp only [Files.walk, kind]; rfl⟩)
  · rcases Memory.kindOf_absent plain.ofPath_eq plain.no_dotDot present with ⟨error, missing⟩
    have kind : memory.view.linkKind root = .error error := missing
    exact Or.inr (Or.inr ⟨present, by simp only [Files.walk, kind]; rfl⟩)

theorem reach_root (stores : memory.Stores files) (plain : (Location.ofPath root).Plain) :
    Reach files memory.depth root (Location.ofPath root).parts := by
  refine ⟨plain.ofPath_eq, plain.no_dotDot, ?_⟩
  intro file isFile _
  have bound := (stores.has_file isFile).length_lt_depth
  omega

/-- A walk comes upon the files at or below its root. -/
theorem mem_walk (stores : memory.Stores files) (plain : (Location.ofPath root).Plain)
    (path : Bytes) :
    path ∈ filePaths (memory.view.walk root) ↔
      ∃ file ∈ files, (Location.ofPath root).parts <+: file ∧ path = reportedPath root file := by
  rcases stores.walk_cases plain with
    ⟨isFile, walked⟩ | ⟨noFile, -, walked⟩ | ⟨absent, walked⟩
  · rw [walked, List.mem_singleton]
    constructor
    · rintro rfl
      exact ⟨_, isFile, List.prefix_refl _, by rw [reportedPath, if_pos rfl]⟩
    · rintro ⟨file, otherFile, isPrefix, rfl⟩
      rw [reportedPath, if_pos (stores.apart _ isFile file otherFile isPrefix)]
  · rw [walked, stores.mem_walkBelow (stores.reach_root plain)]
    constructor
    · rintro ⟨file, isFile, isPrefix, different, rfl⟩
      exact ⟨file, isFile, isPrefix, by rw [reportedPath, if_neg different]⟩
    · rintro ⟨file, isFile, isPrefix, rfl⟩
      have different : (Location.ofPath root).parts ≠ file := fun same => noFile (same ▸ isFile)
      exact ⟨file, isFile, isPrefix, different, by rw [reportedPath, if_neg different]⟩
  · rw [walked]
    constructor
    · intro impossible
      exact absurd impossible List.not_mem_nil
    · rintro ⟨file, isFile, isPrefix, -⟩
      exact absurd (stores.holds.has_of_prefix isFile isPrefix) absent

theorem walk_pairwise (stores : memory.Stores files) (plain : (Location.ofPath root).Plain) :
    (filePaths (memory.view.walk root)).Pairwise Precedes := by
  rcases stores.walk_cases plain with ⟨-, walked⟩ | ⟨-, -, walked⟩ | ⟨-, walked⟩
  · rw [walked]
    exact List.pairwise_singleton _ _
  · rw [walked]
    exact stores.walkBelow_pairwise (stores.reach_root plain)
  · rw [walked]
    exact List.Pairwise.nil

end Memory.Stores

/-! ## Choosing among the files of a walk -/

namespace Config

theorem hasExtension_iff (config : Config) {path : Bytes} {file : List Bytes}
    (located : Location.ofPath path = ⟨false, file⟩) :
    config.hasExtension path = true ↔ config.extension <:+ file.getLastD [] := by
  rw [hasExtension, located, Location.base, List.isSuffixOf_iff_suffix]

/-- The files that are found are those of the walk with the extension that are not ignored. -/
theorem select_files_eq {config : Config} {ignored : Bytes → Bool}
    (decided : ∀ path, config.isIgnored path = .ok (ignored path)) (visits : List Visit) :
    (config.select visits).files =
      (filePaths visits).filter fun path => config.hasExtension path && !ignored path := by
  induction visits with
  | nil => rfl
  | cons visit rest inductionHypothesis =>
    cases visit with
    | unreachable other error => exact inductionHypothesis
    | directory other => exact inductionHypothesis
    | file other =>
      have walked : filePaths (.file other :: rest) = other :: filePaths rest := rfl
      rw [walked, List.filter_cons]
      simp only [select, decided]
      cases config.hasExtension other with
      | false => exact inductionHypothesis
      | true =>
        cases ignored other with
        | true => exact inductionHypothesis
        | false => exact congrArg (other :: ·) inductionHypothesis

theorem mem_select {config : Config}
    (decided : ∀ path, ∃ ignored, config.isIgnored path = .ok ignored) (visits : List Visit)
    (path : Bytes) :
    path ∈ (config.select visits).files ↔
      path ∈ filePaths visits ∧ config.hasExtension path = true ∧
        config.isIgnored path = .ok false := by
  rcases Classical.axiomOfChoice decided with ⟨ignored, answers⟩
  rw [select_files_eq answers, List.mem_filter, Bool.and_eq_true, Bool.not_eq_true', answers,
    Except.ok.injEq]

/-- The files that are found keep the order of the walk. -/
theorem select_sublist (config : Config) (visits : List Visit) :
    (config.select visits).files.Sublist (filePaths visits) := by
  induction visits with
  | nil => exact List.Sublist.slnil
  | cons visit rest inductionHypothesis =>
    cases visit with
    | unreachable other error => exact inductionHypothesis
    | directory other => exact inductionHypothesis
    | file other =>
      have walked : filePaths (.file other :: rest) = other :: filePaths rest := rfl
      rw [walked]
      simp only [select]
      split
      · split
        · exact List.nil_sublist _
        · exact inductionHypothesis.cons other
        · exact inductionHypothesis.cons_cons other
      · exact inductionHypothesis.cons other

end Config

/-! ## Searching written files -/

theorem Precedes.ne {first second : Bytes} (before : Precedes first second) : first ≠ second := by
  intro same
  rw [same] at before
  exact List.lt_irrefl _ before

/-- There is only one way to put paths into order. -/
theorem eq_of_pairwise_precedes {first second : List Bytes} (firstOrder : first.Pairwise Precedes)
    (secondOrder : second.Pairwise Precedes) (same : ∀ path, path ∈ first ↔ path ∈ second) :
    first = second := by
  have perm : first.Perm second :=
    (List.perm_ext_iff_of_nodup (firstOrder.imp Precedes.ne) (secondOrder.imp Precedes.ne)).mpr
      fun {path} => same path
  refine perm.eq_of_pairwise ?_ firstOrder secondOrder
  intro path other _ _ before after
  exact absurd after (List.lt_asymm before)

namespace Memory.Stores

variable {memory : Memory} {files : List (List Bytes)} {config : Config}

theorem mem_search (stores : memory.Stores files) (plain : (Location.ofPath config.root).Plain)
    (decided : ∀ path, ∃ ignored, config.isIgnored path = .ok ignored) (path : Bytes) :
    path ∈ (config.search memory.view).files ↔
      ∃ file ∈ files, (Location.ofPath config.root).parts <+: file ∧
        path = reportedPath config.root file ∧ config.extension <:+ file.getLastD [] ∧
        config.isIgnored path = .ok false := by
  rw [Config.search, Config.mem_select decided, stores.mem_walk plain]
  constructor
  · rintro ⟨⟨file, isFile, isPrefix, rfl⟩, extension, notIgnored⟩
    have located := stores.ofPath_reportedPath plain isFile
    exact ⟨file, isFile, isPrefix, rfl, (config.hasExtension_iff located).mp extension, notIgnored⟩
  · rintro ⟨file, isFile, isPrefix, rfl, extension, notIgnored⟩
    have located := stores.ofPath_reportedPath plain isFile
    exact ⟨⟨file, isFile, isPrefix, rfl⟩, (config.hasExtension_iff located).mpr extension,
      notIgnored⟩

theorem search_pairwise (stores : memory.Stores files)
    (plain : (Location.ofPath config.root).Plain) :
    (config.search memory.view).files.Pairwise Precedes :=
  (stores.walk_pairwise plain).sublist (config.select_sublist _)

/-- A file that is held can be read. -/
theorem checkFile_rule (stores : memory.Stores files) {path : Bytes} {file : List Bytes}
    (located : Location.ofPath path = ⟨false, file⟩) (isFile : file ∈ files) :
    ∀ finding ∈ (checkFile memory.view path).findings, finding.rule ≠ .readError := by
  have present := stores.has_file isFile
  rcases present.lookup? with ⟨entry, -, -, found⟩
  have content : memory.view.read path = .ok entry.content := by
    simp [view, openEntry, locate_eq_spot located (stores.no_dotDot present), found, Except.map]
  intro finding member
  rw [checkFile, content] at member
  exact Check.content_rule_ne_readError member

end Memory.Stores

/-- The search of a memory to which files have been written at paths without double dots, none of
them in the way of another, with a root without double dots. The files found are exactly those at
or below the root that have the extension and are not ignored. They come once each and in the
order that compares paths part by part; a directory is not among them, and nothing is found if the
root is missing. Each of them can be read. It does not matter in which order, how often and with
which contents the files have been written. -/
theorem search_finds_written_files (writes : List (Bytes × Bytes)) (config : Config)
    (plainWrites : ∀ write ∈ writes, (Location.ofPath write.1).Plain)
    (apart : Memory.Apart (Memory.writtenFiles writes))
    (plainRoot : (Location.ofPath config.root).Plain)
    (decided : ∀ path, ∃ ignored, config.isIgnored path = .ok ignored) :
    let memory := Memory.ofWrites writes
    let found := config.search memory.view
    found.failure? = none ∧
      (∀ path, path ∈ found.files ↔ ∃ file ∈ Memory.writtenFiles writes,
        (Location.ofPath config.root).parts <+: file ∧ path = reportedPath config.root file ∧
          config.extension <:+ file.getLastD [] ∧ config.isIgnored path = .ok false) ∧
      found.files.Pairwise Precedes ∧ found.files.Nodup ∧
      (∀ path, memory.kindOf path = .ok .directory → path ∉ found.files) ∧
      ((∃ error, memory.kindOf config.root = .error error) → found.files = []) ∧
      (∀ path ∈ found.files, ∀ finding ∈ (checkFile memory.view path).findings,
        finding.rule ≠ .readError) ∧
      ∀ others : List (Bytes × Bytes), (∀ write ∈ others, (Location.ofPath write.1).Plain) →
        (∀ file, file ∈ Memory.writtenFiles others ↔ file ∈ Memory.writtenFiles writes) →
        (config.search (Memory.ofWrites others).view).files = found.files := by
  intro memory found
  have stores : memory.Stores (Memory.writtenFiles writes) :=
    Memory.ofWrites_stores plainWrites apart
  have members := stores.mem_search plainRoot decided
  have ordered := stores.search_pairwise plainRoot
  refine ⟨Config.select_failure?_eq_none decided _, members, ordered, ordered.imp Precedes.ne,
    ?_, ?_, ?_, ?_⟩
  · intro path isDirectory isFound
    rcases (members path).mp isFound with ⟨file, isFile, -, rfl, -⟩
    rw [stores.kindOf_file (stores.ofPath_reportedPath plainRoot isFile) isFile] at isDirectory
    cases isDirectory
  · rintro ⟨error, missing⟩
    apply List.eq_nil_iff_forall_not_mem.mpr
    intro path isFound
    rcases (members path).mp isFound with ⟨file, isFile, isPrefix, -⟩
    by_cases rootIsFile : (Location.ofPath config.root).parts ∈ Memory.writtenFiles writes
    · rw [stores.kindOf_file plainRoot.ofPath_eq rootIsFile] at missing
      cases missing
    · have present := stores.holds.has_of_prefix isFile isPrefix
      rw [stores.kindOf_directory plainRoot.ofPath_eq present rootIsFile] at missing
      cases missing
  · intro path isFound
    rcases (members path).mp isFound with ⟨file, isFile, -, rfl, -⟩
    exact stores.checkFile_rule (stores.ofPath_reportedPath plainRoot isFile) isFile
  · intro others plainOthers same
    have othersApart : Memory.Apart (Memory.writtenFiles others) :=
      apart.subset fun file => (same file).mp
    have othersStored : (Memory.ofWrites others).Stores (Memory.writtenFiles writes) :=
      (Memory.ofWrites_stores plainOthers othersApart).congr same
    apply eq_of_pairwise_precedes (othersStored.search_pairwise plainRoot) ordered
    intro path
    rw [othersStored.mem_search plainRoot decided, members]

/-- Files of which one is ignored, one stands deeper and one lies in a directory with the
extension of files. -/
def nestedWrites : List (Bytes × Bytes) :=
  [(utf8 "app/a-b.php", []), (utf8 "app/a/x.php", utf8 "\x7b"), (utf8 "app/d.php/note", []),
    (utf8 "app/skip.php", [])]

def skippedFile : Pattern where
  text := utf8 "app/skip.php"
  format := utf8 "fixed_string"

def nestedConfig : Config where
  root := utf8 "./app/"
  extension := utf8 ".php"
  ignoreFiles := [some skippedFile]

theorem search_finds_nested_files :
    let found := (nestedConfig.search (Memory.ofWrites nestedWrites).view).files
    utf8 "app/a/x.php" ∈ found ∧ utf8 "app/d.php" ∉ found ∧ utf8 "app/skip.php" ∉ found ∧
      found.Pairwise Precedes := by
  have plainWrites : ∀ write ∈ nestedWrites, (Location.ofPath write.1).Plain := by
    have relative : ∀ write ∈ nestedWrites, (Location.ofPath write.1).rooted = false := by
      decide +kernel
    have noDotDot : ∀ write ∈ nestedWrites, Location.dotDot ∉ (Location.ofPath write.1).parts := by
      decide +kernel
    exact fun write isWrite => ⟨relative write isWrite, noDotDot write isWrite⟩
  have apart : Memory.Apart (Memory.writtenFiles nestedWrites) := by
    unfold Memory.Apart
    decide +kernel
  have prepared : skippedFile.prepare = .ok skippedFile := rfl
  have decided : ∀ path, ∃ ignored, nestedConfig.isIgnored path = .ok ignored :=
    Config.anyMatch_of_ready (Config.ready_cons (Pattern.decides_of_prepare prepared)
      fun _ member => absurd member List.not_mem_nil)
  have plainRoot : (Location.ofPath nestedConfig.root).Plain := ⟨by decide, by decide⟩
  rcases search_finds_written_files nestedWrites nestedConfig plainWrites apart plainRoot
    decided with ⟨_, members, ordered, _, noDirectories, _⟩
  refine ⟨?_, ?_, ?_, ordered⟩
  · exact (members _).mpr ⟨[utf8 "app", utf8 "a", utf8 "x.php"], by decide +kernel,
      by decide +kernel, by decide +kernel, by decide +kernel, rfl⟩
  · exact noDirectories _ rfl
  · intro isFound
    have ignored : nestedConfig.isIgnored (utf8 "app/skip.php") = .ok true := rfl
    rcases (members _).mp isFound with ⟨_, _, _, _, _, notIgnored⟩
    rw [ignored] at notIgnored
    cases notIgnored

end PhpLint
