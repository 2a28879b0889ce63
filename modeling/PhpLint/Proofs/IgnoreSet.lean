import PhpLint.Proofs.GlobGrammar
import PhpLint.Proofs.Run
import PhpLint.Proofs.Search

namespace PhpLint

/-!
# The set of ignored files

The patterns of a configuration are tried one after another, and the first one that matches
or fails ends the trial. A pattern that has been prepared does not fail, so the order makes
no difference, and neither do repetitions: a file is ignored if some pattern matches it.
What a prepared pattern matches is determined by its text and its format. So two
configurations with the same texts and formats cannot be told apart, and more patterns take
files out of a search without changing the order of the others.
-/

namespace Pattern

/-- The pattern has come out of a preparation. -/
def IsPrepared (pattern : Pattern) : Prop :=
  ∃ source : Pattern, source.prepare = .ok pattern

/-- What is written in a configuration for a pattern. -/
def spelling (pattern : Pattern) : Bytes × Bytes :=
  (pattern.text, pattern.format)

/-- Whether the pattern matches a path. A failure counts as no. -/
def hits (pattern : Pattern) (path : Bytes) : Bool :=
  match pattern.isMatch path with
  | .ok matched => matched
  | .error _ => false

theorem prepare_eq_of_spelling_eq {first second : Pattern}
    (same : first.spelling = second.spelling) : first.prepare = second.prepare := by
  rcases first with ⟨text, format, compiled?⟩
  rcases second with ⟨otherText, otherFormat, otherCompiled?⟩
  cases same
  rfl

theorem spelling_eq_of_prepare {pattern prepared : Pattern}
    (success : pattern.prepare = .ok prepared) : prepared.spelling = pattern.spelling := by
  unfold prepare at success
  repeat' split at success
  all_goals
    cases success
    try rfl

namespace IsPrepared

variable {pattern other : Pattern}

theorem decides (isPrepared : pattern.IsPrepared) : pattern.Decides := by
  rcases isPrepared with ⟨source, success⟩
  exact decides_of_prepare success

/-- Nothing but the text and the format makes a difference once a pattern has been prepared. -/
theorem eq_of_spelling_eq (isPrepared : pattern.IsPrepared) (isOther : other.IsPrepared)
    (same : pattern.spelling = other.spelling) : pattern = other := by
  rcases isPrepared with ⟨source, success⟩
  rcases isOther with ⟨otherSource, otherSuccess⟩
  have sources : source.spelling = otherSource.spelling := by
    rw [← spelling_eq_of_prepare success, same, spelling_eq_of_prepare otherSuccess]
  rw [prepare_eq_of_spelling_eq sources, otherSuccess] at success
  exact (Except.ok.inj success).symm

end IsPrepared

theorem Decides.isMatch_eq {pattern : Pattern} (decides : pattern.Decides) (path : Bytes) :
    pattern.isMatch path = .ok (pattern.hits path) := by
  rcases decides path with ⟨matched, answer⟩
  rw [hits, answer]

end Pattern

namespace Config

/-- No element of the list of ignored files is missing, and all of them have been prepared. -/
def Prepared (config : Config) : Prop :=
  ∀ element ∈ config.ignoreFiles, ∃ pattern, element = some pattern ∧ pattern.IsPrepared

/-- The texts and formats of the ignored files. -/
def spellings (config : Config) : List (Bytes × Bytes) :=
  config.ignoreFiles.filterMap fun element => element.map Pattern.spelling

/-- Whether one of the ignored files matches a path. A failure counts as no. -/
def hits (config : Config) (path : Bytes) : Bool :=
  config.ignoreFiles.any fun element => element.any fun pattern => pattern.hits path

/-- Of elements that do not fail, it does not matter which one matches first. -/
theorem anyMatch_eq_any {elements : List (Option Pattern)} (ready : Ready elements)
    (path : Bytes) :
    anyMatch path elements =
      .ok (elements.any fun element => element.any fun pattern => pattern.hits path) := by
  induction elements with
  | nil => rfl
  | cons element rest inductionHypothesis =>
    rcases ready element List.mem_cons_self with ⟨pattern, rfl, decides⟩
    have later := inductionHypothesis fun other member =>
      ready other (List.mem_cons_of_mem _ member)
    simp only [anyMatch, decides.isMatch_eq path, List.any_cons, Option.any_some]
    cases pattern.hits path with
    | true => rfl
    | false => exact later

namespace Prepared

variable {config other : Config}

theorem ready (prepared : config.Prepared) : Ready config.ignoreFiles := by
  intro element member
  rcases prepared element member with ⟨pattern, same, isPrepared⟩
  exact ⟨pattern, same, isPrepared.decides⟩

theorem isIgnored_eq (prepared : config.Prepared) (path : Bytes) :
    config.isIgnored path = .ok (config.hits path) :=
  anyMatch_eq_any prepared.ready path

/-- A prepared pattern is listed if its text and its format are. -/
theorem mem_ignoreFiles_iff (prepared : config.Prepared) {pattern : Pattern}
    (isPrepared : pattern.IsPrepared) :
    some pattern ∈ config.ignoreFiles ↔ pattern.spelling ∈ config.spellings := by
  rw [spellings, List.mem_filterMap]
  constructor
  · intro listed
    exact ⟨some pattern, listed, rfl⟩
  · rintro ⟨element, listed, same⟩
    rcases prepared element listed with ⟨listedPattern, rfl, isListed⟩
    rw [isPrepared.eq_of_spelling_eq isListed (Option.some.inj same).symm]
    exact listed

/-- A path is ignored if a pattern with one of the texts and formats matches it. -/
theorem hits_iff (prepared : config.Prepared) {path : Bytes} :
    config.hits path = true ↔
      ∃ pattern : Pattern, pattern.IsPrepared ∧ pattern.spelling ∈ config.spellings ∧
        pattern.hits path = true := by
  rw [hits, List.any_eq_true]
  constructor
  · rintro ⟨element, listed, isHit⟩
    rcases prepared element listed with ⟨pattern, rfl, isPrepared⟩
    exact ⟨pattern, isPrepared, (prepared.mem_ignoreFiles_iff isPrepared).mp listed, isHit⟩
  · rintro ⟨pattern, isPrepared, listed, isHit⟩
    exact ⟨some pattern, (prepared.mem_ignoreFiles_iff isPrepared).mpr listed, isHit⟩

theorem isIgnored_eq_of_same (prepared : config.Prepared) (otherPrepared : other.Prepared)
    (same : ∀ spelling, spelling ∈ other.spellings ↔ spelling ∈ config.spellings) (path : Bytes) :
    other.isIgnored path = config.isIgnored path := by
  rw [prepared.isIgnored_eq, otherPrepared.isIgnored_eq, Except.ok.injEq, Bool.eq_iff_iff,
    prepared.hits_iff, otherPrepared.hits_iff]
  simp only [same]

/-- With further patterns a path is ignored if one of the old or of the further ones matches it. -/
theorem hits_eq_or (prepared : config.Prepared) (otherPrepared : other.Prepared)
    {added : List Pattern} (addedPrepared : ∀ pattern ∈ added, pattern.IsPrepared)
    (union : ∀ spelling, spelling ∈ other.spellings ↔
      spelling ∈ config.spellings ∨ spelling ∈ added.map Pattern.spelling) (path : Bytes) :
    other.hits path = (config.hits path || added.any fun pattern => pattern.hits path) := by
  rw [Bool.eq_iff_iff, Bool.or_eq_true, otherPrepared.hits_iff, prepared.hits_iff,
    List.any_eq_true]
  constructor
  · rintro ⟨pattern, isPrepared, listed, isHit⟩
    rcases (union _).mp listed with before | further
    · exact Or.inl ⟨pattern, isPrepared, before, isHit⟩
    · rcases List.mem_map.mp further with ⟨listedPattern, member, same⟩
      rw [isPrepared.eq_of_spelling_eq (addedPrepared _ member) same.symm] at isHit
      exact Or.inr ⟨listedPattern, member, isHit⟩
  · rintro (⟨pattern, isPrepared, before, isHit⟩ | ⟨pattern, member, isHit⟩)
    · exact ⟨pattern, isPrepared, (union _).mpr (Or.inl before), isHit⟩
    · have further := List.mem_map_of_mem member (f := Pattern.spelling)
      exact ⟨pattern, addedPrepared pattern member, (union _).mpr (Or.inr further), isHit⟩

theorem failure?_search_eq_none (prepared : config.Prepared) (files : Files) :
    (config.search files).failure? = none :=
  select_failure?_eq_none (fun path => ⟨_, prepared.isIgnored_eq path⟩) _

end Prepared

/-! ## Searches and runs -/

/-- A search depends on which files are ignored, and not on the patterns as such. -/
theorem select_eq_of_isIgnored_eq {config other : Config}
    (sameExtension : other.extension = config.extension)
    (sameIgnored : ∀ path, other.isIgnored path = config.isIgnored path) (visits : List Visit) :
    other.select visits = config.select visits := by
  induction visits with
  | nil => rfl
  | cons visit rest inductionHypothesis =>
    cases visit with
    | unreachable path error => rw [select, select, inductionHypothesis]
    | directory path => exact inductionHypothesis
    | file path =>
      rw [select, select, inductionHypothesis, sameIgnored, hasExtension, hasExtension,
        sameExtension]

end Config

theorem run_eq_of_config_search_eq {config other : Config} {files : Files}
    (sameRoot : other.root = config.root) (sameSearch : other.search files = config.search files)
    (options : RunOptions) (context : RunContext) :
    run files other options context = run files config options context := by
  unfold run
  simp only [sameSearch, sameRoot]

theorem Run.targets?_of_failure?_eq_none {files : Files} {config : Config}
    (found : (config.search files).failure? = none) (options : RunOptions) :
    ∃ paths, Run.targets? files config options = some paths := by
  unfold Run.targets?
  split
  · rw [found]
    exact ⟨_, rfl⟩
  · exact ⟨_, rfl⟩

namespace Config

/-- Patterns that have been prepared act as a set. Configurations with the same root, the same
extension and the same set of texts and formats ignore the same files, and every run ends alike
with both. A configuration with further patterns finds what the other one finds, less the files
that one of these patterns matches, and in the same order. -/
theorem ignored_patterns_act_as_set (config other : Config) (prepared : config.Prepared)
    (otherPrepared : other.Prepared) (sameRoot : other.root = config.root)
    (sameExtension : other.extension = config.extension) :
    ((∀ spelling, spelling ∈ other.spellings ↔ spelling ∈ config.spellings) →
      (∀ path, other.isIgnored path = config.isIgnored path) ∧
      ∀ (files : Files) (options : RunOptions) (context : RunContext),
        ∃ outcome, run files config options context = some outcome ∧
          run files other options context = some outcome) ∧
    ∀ added : List Pattern, (∀ pattern ∈ added, pattern.IsPrepared) →
      (∀ spelling, spelling ∈ other.spellings ↔
        spelling ∈ config.spellings ∨ spelling ∈ added.map Pattern.spelling) →
      (∀ pattern ∈ added, ∀ path, pattern.isMatch path = .ok (pattern.hits path)) ∧
      ∀ files : Files, (config.search files).failure? = none ∧
        (other.search files).failure? = none ∧
        (other.search files).files = (config.search files).files.filter fun path =>
          added.all fun pattern => !pattern.hits path := by
  constructor
  · intro same
    have sameIgnored := prepared.isIgnored_eq_of_same otherPrepared same
    refine ⟨sameIgnored, ?_⟩
    intro files options context
    have sameSearch : other.search files = config.search files := by
      rw [search, search, sameRoot, select_eq_of_isIgnored_eq sameExtension sameIgnored]
    rcases Run.targets?_of_failure?_eq_none (prepared.failure?_search_eq_none files) options with
      ⟨paths, resolved⟩
    have sameRun := run_eq_of_config_search_eq sameRoot sameSearch options context
    have completes : ∃ outcome, run files config options context = some outcome :=
      Run.exists_outcome_of_resolved resolved
    rcases completes with ⟨outcome, ends⟩
    exact ⟨outcome, ends, sameRun.trans ends⟩
  · intro added addedPrepared union
    refine ⟨fun pattern member => (addedPrepared pattern member).decides.isMatch_eq, ?_⟩
    intro files
    refine ⟨prepared.failure?_search_eq_none files, otherPrepared.failure?_search_eq_none files, ?_⟩
    rw [search, search, sameRoot, select_files_eq prepared.isIgnored_eq,
      select_files_eq otherPrepared.isIgnored_eq, List.filter_filter]
    apply List.filter_congr
    intro path _
    rw [prepared.hits_eq_or otherPrepared addedPrepared union, hasExtension, hasExtension,
      sameExtension, Bool.not_or, ← List.not_any_eq_all_not, Bool.and_comm (!added.any _),
      Bool.and_assoc]

def dashedFiles : Pattern where
  text := utf8 "app/*-*"
  format := utf8 "glob"

def filesWithX : Pattern where
  text := utf8 "x"
  format := utf8 "regexp"
  compiled? := some (.char (.single 0x78 false))

/-- The nested configuration with other patterns. -/
def ignoring (patterns : List Pattern) : Config :=
  { nestedConfig with ignoreFiles := patterns.map some }

theorem prepared_ignoring {patterns : List Pattern}
    (allPrepared : ∀ pattern ∈ patterns, pattern.IsPrepared) : (ignoring patterns).Prepared := by
  intro element listed
  rcases List.mem_map.mp listed with ⟨pattern, member, rfl⟩
  exact ⟨pattern, rfl, allPrepared pattern member⟩

theorem spellings_ignoring (patterns : List Pattern) :
    (ignoring patterns).spellings = patterns.map Pattern.spelling := by
  rw [spellings, ignoring, List.filterMap_map]
  exact congrFun List.filterMap_eq_map patterns

theorem ignoring_repeated_and_further_patterns :
    (∀ files options context, ∃ outcome,
      run files (ignoring [skippedFile, dashedFiles]) options context = some outcome ∧
        run files (ignoring [dashedFiles, skippedFile, dashedFiles]) options context =
          some outcome) ∧
    filesWithX.hits (utf8 "app/a/x.php") = true ∧
    ∀ files, ((ignoring [filesWithX, dashedFiles, skippedFile]).search files).files =
      ((ignoring [skippedFile, dashedFiles]).search files).files.filter fun path =>
        [filesWithX].all fun pattern => !pattern.hits path := by
  have skippedPrepared : skippedFile.IsPrepared := ⟨skippedFile, rfl⟩
  have isGlob : Glob.IsGlob dashedFiles.text := Glob.isWellFormed_iff.mp (by decide +kernel)
  have dashedPrepared : dashedFiles.IsPrepared :=
    ⟨dashedFiles, Pattern.prepare_of_isGlob (by decide) rfl isGlob⟩
  have withXPrepared : filesWithX.IsPrepared := ⟨{ filesWithX with compiled? := none }, rfl⟩
  have prepared : (ignoring [skippedFile, dashedFiles]).Prepared :=
    prepared_ignoring (by simp [skippedPrepared, dashedPrepared])
  have repeatedPrepared : (ignoring [dashedFiles, skippedFile, dashedFiles]).Prepared :=
    prepared_ignoring (by simp [skippedPrepared, dashedPrepared])
  have furtherPrepared : (ignoring [filesWithX, dashedFiles, skippedFile]).Prepared :=
    prepared_ignoring (by simp [skippedPrepared, dashedPrepared, withXPrepared])
  rcases ignored_patterns_act_as_set _ _ prepared repeatedPrepared rfl rfl with ⟨agree, _⟩
  rcases ignored_patterns_act_as_set _ _ prepared furtherPrepared rfl rfl with ⟨_, removes⟩
  refine ⟨?_, by decide +kernel, ?_⟩
  · apply (agree ?_).2
    intro spelling
    simp only [spellings_ignoring, List.map_cons, List.map_nil, List.mem_cons, List.not_mem_nil]
    grind
  · intro files
    refine ((removes [filesWithX] (by simp [withXPrepared]) ?_).2 files).2.2
    intro spelling
    simp only [spellings_ignoring, List.map_cons, List.map_nil, List.mem_cons, List.not_mem_nil]
    grind

end Config
end PhpLint
