import PhpLint.Proofs.Agreement
import PhpLint.Proofs.OrderlyWalk

namespace PhpLint

/-!
# Searches that fail

A pattern that has not been prepared, or cannot be, fails when it is asked about a path. A
search asks the patterns in their order, about the files with the extension only, and not
beyond a pattern that matches. It goes through the files in the order of their paths and
ends at the first file at which a pattern fails. A run then checks nothing and tells where
the search has failed.
-/

/-! ## Patterns that fail -/

namespace Config

/-- A pattern of the list fails at a path, and no pattern before it matches the path. -/
def FailsWith (path : Bytes) (elements : List (Option Pattern)) (error : PatternError) : Prop :=
  ∃ before pattern after, elements = before ++ some pattern :: after ∧
    pattern.isMatch path = .error error ∧
    ∀ earlier, some earlier ∈ before → earlier.isMatch path ≠ .ok true

section FailsWith

variable {path : Bytes} {elements : List (Option Pattern)} {error : PatternError}

theorem failsWith_cons {pattern : Pattern} (unmatched : pattern.isMatch path ≠ .ok true)
    (fails : FailsWith path elements error) : FailsWith path (some pattern :: elements) error := by
  rcases fails with ⟨before, failing, after, rfl, failed, noneMatches⟩
  refine ⟨some pattern :: before, failing, after, rfl, failed, ?_⟩
  intro earlier listed
  rcases List.mem_cons.mp listed with same | later
  · rwa [Option.some.inj same]
  · exact noneMatches earlier later

theorem failsWith_of_anyMatch (complete : none ∉ elements) {failure : IgnoreFailure}
    (failed : anyMatch path elements = .error failure) :
    ∃ error, failure = .pattern error ∧ FailsWith path elements error := by
  induction elements with
  | nil => cases failed
  | cons element rest inductionHypothesis =>
    cases element with
    | none => exact absurd List.mem_cons_self complete
    | some pattern =>
      rw [anyMatch] at failed
      cases answer : pattern.isMatch path with
      | error error =>
        rw [answer] at failed
        cases failed
        exact ⟨error, rfl, [], pattern, rest, rfl, answer,
          fun _ impossible => absurd impossible List.not_mem_nil⟩
      | ok matched =>
        rw [answer] at failed
        cases matched with
        | true => cases failed
        | false =>
          have laterComplete : none ∉ rest := fun member =>
            complete (List.mem_cons_of_mem _ member)
          rcases inductionHypothesis laterComplete failed with ⟨error, same, fails⟩
          exact ⟨error, same, failsWith_cons (by rw [answer]; simp) fails⟩

theorem FailsWith.anyMatch_eq_error (fails : FailsWith path elements error) :
    ∃ failure, anyMatch path elements = .error failure := by
  rcases fails with ⟨before, pattern, after, rfl, failed, noneMatches⟩
  induction before with
  | nil =>
    refine ⟨.pattern error, ?_⟩
    rw [List.nil_append, anyMatch, failed]
  | cons element rest inductionHypothesis =>
    cases element with
    | none => exact ⟨.elementMissing, rfl⟩
    | some earlier =>
      rw [List.cons_append, anyMatch]
      cases answer : earlier.isMatch path with
      | error other => exact ⟨.pattern other, rfl⟩
      | ok matched =>
        cases matched with
        | true => exact absurd answer (noneMatches earlier List.mem_cons_self)
        | false =>
          exact inductionHypothesis fun other listed =>
            noneMatches other (List.mem_cons_of_mem _ listed)

end FailsWith

/-- Whether a search ends at a file. -/
def endsAt (config : Config) (path : Bytes) : Bool :=
  config.hasExtension path && !(config.isIgnored path).isOk

theorem endsAt_iff {config : Config} (complete : none ∉ config.ignoreFiles) {path : Bytes} :
    config.endsAt path = true ↔ config.extension <:+ (Location.ofPath path).base ∧
      ∃ error, FailsWith path config.ignoreFiles error := by
  rw [endsAt, Bool.and_eq_true, hasExtension, List.isSuffixOf_iff_suffix]
  apply and_congr_right
  intro _
  constructor
  · intro notDecided
    cases answer : config.isIgnored path with
    | ok ignored =>
      rw [answer] at notDecided
      cases notDecided
    | error failure =>
      rcases failsWith_of_anyMatch complete answer with ⟨error, -, fails⟩
      exact ⟨error, fails⟩
  · rintro ⟨error, fails⟩
    rcases fails.anyMatch_eq_error with ⟨failure, failed⟩
    rw [isIgnored, failed]
    rfl

/-- A search ends at the first file of the walk at which it has to. -/
theorem select_failure?_eq (config : Config) (visits : List Visit) :
    (config.select visits).failure?.map SearchFailure.path =
      (filePaths visits).find? config.endsAt := by
  induction visits with
  | nil => rfl
  | cons visit rest inductionHypothesis =>
    cases visit with
    | unreachable other error => exact inductionHypothesis
    | directory other => exact inductionHypothesis
    | file other =>
      have walked : filePaths (.file other :: rest) = other :: filePaths rest := rfl
      rw [walked, List.find?_cons, endsAt]
      simp only [select]
      cases config.hasExtension other with
      | false => exact inductionHypothesis
      | true =>
        cases config.isIgnored other with
        | error failure => rfl
        | ok ignored => cases ignored <;> exact inductionHypothesis

theorem isIgnored_of_select {config : Config} {visits : List Visit} {failure : SearchFailure}
    (failed : (config.select visits).failure? = some failure) :
    config.isIgnored failure.path = .error failure.failure := by
  induction visits with
  | nil => cases failed
  | cons visit rest inductionHypothesis =>
    cases visit with
    | unreachable other error => exact inductionHypothesis failed
    | directory other => exact inductionHypothesis failed
    | file other =>
      simp only [select] at failed
      split at failed
      · split at failed
        · next answer =>
          cases failed
          exact answer
        · exact inductionHypothesis failed
        · exact inductionHypothesis failed
      · exact inductionHypothesis failed

/-- A file below the root with the extension at which a pattern fails. -/
def Trips (config : Config) (files : Files) (path : Bytes) : Prop :=
  files.LiesBelow config.root path ∧ config.extension <:+ (Location.ofPath path).base ∧
    ∃ error, FailsWith path config.ignoreFiles error

variable {config : Config} {files : Files}

theorem trips_iff (orderly : files.Orderly) (complete : none ∉ config.ignoreFiles)
    {path : Bytes} : config.Trips files path ↔
      path ∈ filePaths (files.walk config.root) ∧ config.endsAt path = true := by
  rw [Trips, orderly.mem_walk_iff, endsAt_iff complete]

theorem search_failure?_ne_none_iff (orderly : files.Orderly)
    (complete : none ∉ config.ignoreFiles) :
    (config.search files).failure? ≠ none ↔ ∃ path, config.Trips files path := by
  have ended := config.select_failure?_eq (files.walk config.root)
  simp only [trips_iff orderly complete]
  rw [← Option.isSome_iff_ne_none, ← Option.isSome_map, search, ended, List.find?_isSome]

/-- The file at which a search fails comes before all others at which it could have failed. -/
theorem trips_of_search_failure? (orderly : files.Orderly) (complete : none ∉ config.ignoreFiles)
    {failure : SearchFailure} (failed : (config.search files).failure? = some failure) :
    config.Trips files failure.path ∧
      ∀ other, config.Trips files other → other = failure.path ∨ Precedes failure.path other := by
  have found : (filePaths (files.walk config.root)).find? config.endsAt = some failure.path := by
    rw [← select_failure?_eq]
    exact congrArg (Option.map SearchFailure.path) failed
  constructor
  · exact (trips_iff orderly complete).mpr
      ⟨List.mem_of_find?_eq_some found, List.find?_some found⟩
  · intro other trips
    rcases (trips_iff orderly complete).mp trips with ⟨walked, ends⟩
    rw [Files.filePaths_walk] at found walked
    exact orderly.firstIsLeast_filesAt _ _ config.endsAt failure.path found other walked ends

end Config

/-! ## Runs whose search fails -/

/-- A walk does not read the files. -/
theorem Files.walk_with_read (files : Files) (read : Bytes → Except FileError Bytes)
    (root : Bytes) : ({ files with read := read } : Files).walk root = files.walk root := by
  have walkBelow_eq (fuel : Nat) (directory : Bytes) :
      ({ files with read := read } : Files).walkBelow fuel directory =
        files.walkBelow fuel directory := by
    induction fuel generalizing directory with
    | zero => rfl
    | succ fuel inductionHypothesis => simp only [walkBelow, inductionHypothesis]
  simp only [walk, walkBelow_eq]

/-- Nothing is read, checked or written after a search has failed. -/
theorem Run.exists_outcome_of_search_failure? {files : Files} {config : Config}
    {options : RunOptions} (searched : options.paths = []) {path : Bytes} {error : PatternError}
    (failed : (config.search files).failure? = some ⟨path, .pattern error⟩)
    (context : RunContext) :
    ∃ outcome, run files config options context = some outcome ∧
      (∀ read, run { files with read := read } config options context = some outcome) ∧
      outcome.output = [] ∧ outcome.error? ≠ some .issuesFound ∧
      loggedFiles outcome.entries = [] ∧
      (ReportFormat.ofName? options.format ≠ none →
        outcome.error? = some (.search config.root path error)) := by
  have sameSearch (read : Bytes → Except FileError Bytes) :
      config.search { files with read := read } = config.search files := by
    rw [Config.search, Config.search, Files.walk_with_read]
  unfold run
  simp only [searched, List.isEmpty_nil, if_true, sameSearch, failed]
  cases ReportFormat.ofName? options.format with
  | none =>
    refine ⟨_, rfl, fun _ => rfl, rfl, ?_, rfl, fun unknown => absurd rfl unknown⟩
    intro impossible
    cases impossible
  | some format =>
    refine ⟨_, rfl, fun _ => rfl, rfl, ?_, loggedFiles_select config _, fun _ => rfl⟩
    intro impossible
    cases impossible

/-- A search in a memory of names fails exactly if there is a file at or below the root that has the
extension and at which a pattern fails before any pattern of the list matches it. It fails at the
first of these files, with an error of one of the patterns there. The run then ends with this
error, which names the file and the root of the configuration; it writes nothing, does not say
that issues have been found, checks no file, and would have been the same with any contents. -/
theorem search_fails_at_first_failing_file (memory : Memory) (ofNames : memory.OfNames)
    (config : Config) (complete : none ∉ config.ignoreFiles) (options : RunOptions)
    (searched : options.paths = []) (context : RunContext) :
    ((config.search memory.view).failure? ≠ none ↔ ∃ path, config.Trips memory.view path) ∧
      ∀ path failure, (config.search memory.view).failure? = some ⟨path, failure⟩ →
        config.Trips memory.view path ∧
        (∀ other, config.Trips memory.view other → other = path ∨ Precedes path other) ∧
        ∃ error outcome, failure = .pattern error ∧
          Config.FailsWith path config.ignoreFiles error ∧
          run memory.view config options context = some outcome ∧
          (∀ read, run { memory.view with read := read } config options context = some outcome) ∧
          outcome.output = [] ∧ outcome.error? ≠ some .issuesFound ∧
          Run.loggedFiles outcome.entries = [] ∧
          (ReportFormat.ofName? options.format ≠ none →
            outcome.error? = some (.search config.root path error) ∧
            outcome.error?.map RunError.fields =
              some [(utf8 "path", path), (utf8 "root", config.root)]) := by
  have orderly := ofNames.orderly
  refine ⟨Config.search_failure?_ne_none_iff orderly complete, ?_⟩
  intro path failure failed
  rcases Config.trips_of_search_failure? orderly complete failed with ⟨trips, isFirst⟩
  rcases Config.failsWith_of_anyMatch complete (Config.isIgnored_of_select failed) with
    ⟨error, rfl, fails⟩
  rcases Run.exists_outcome_of_search_failure? searched failed context with
    ⟨outcome, ran, unread, unwritten, noVerdict, unchecked, reported⟩
  refine ⟨trips, isFirst, error, outcome, rfl, fails, ran, unread, unwritten, noVerdict, unchecked,
    ?_⟩
  intro known
  rw [reported known]
  exact ⟨rfl, rfl⟩

/-- An ignored file, two files with an open brace that are not ignored, and one without the
extension. -/
def bracedWrites : List (Bytes × Bytes) :=
  [(utf8 "app/z.php", utf8 "\x7b"), (utf8 "app/b/c.php", utf8 "\x7b"), (utf8 "app/a.php", []),
    (utf8 "app/a.txt", [])]

/-- The second pattern has not been prepared. -/
def halfPrepared : Config where
  root := utf8 "./app/"
  extension := utf8 ".php"
  ignoreFiles :=
    [some ⟨utf8 "app/a.php", utf8 "fixed_string", none⟩, some ⟨utf8 "x", utf8 "regexp", none⟩]

theorem search_fails_at_bracedFile :
    let files := (Memory.ofWrites bracedWrites).view
    (halfPrepared.search files).failure? =
        some ⟨utf8 "app/b/c.php", .pattern .notCompiled⟩ ∧
      ∃ outcome, run files halfPrepared {} {} = some outcome ∧ outcome.output = [] ∧
        outcome.error? =
          some (.search halfPrepared.root (utf8 "app/b/c.php") .notCompiled) ∧
        Run.loggedFiles outcome.entries = [] := by
  intro files
  have plainWrites : ∀ write ∈ bracedWrites, (Location.ofPath write.1).Plain := by
    have relative : ∀ write ∈ bracedWrites, (Location.ofPath write.1).rooted = false := by
      decide +kernel
    have noDotDot : ∀ write ∈ bracedWrites, Location.dotDot ∉ (Location.ofPath write.1).parts := by
      decide +kernel
    exact fun write isWrite => ⟨relative write isWrite, noDotDot write isWrite⟩
  have apart : Memory.Apart (Memory.writtenFiles bracedWrites) := by
    unfold Memory.Apart
    decide +kernel
  have stores := Memory.ofWrites_stores plainWrites apart
  have plainRoot : (Location.ofPath halfPrepared.root).Plain := ⟨by decide, by decide⟩
  have orderly := stores.ofNames.orderly
  have complete : none ∉ halfPrepared.ignoreFiles := by
    simp [halfPrepared]
  have noneBefore : ∀ file ∈ Memory.writtenFiles bracedWrites,
      halfPrepared.endsAt (reportedPath halfPrepared.root file) = true →
        ¬ (Location.ofPath (reportedPath halfPrepared.root file)).parts <
          (Location.ofPath (utf8 "app/b/c.php")).parts := by
    decide +kernel
  have trips : halfPrepared.Trips files (utf8 "app/b/c.php") := by
    apply (Config.trips_iff orderly complete).mpr
    refine ⟨(stores.mem_walk plainRoot _).mpr ?_, by decide +kernel⟩
    exact ⟨[utf8 "app", utf8 "b", utf8 "c.php"], by decide +kernel, by decide +kernel,
      by decide +kernel⟩
  rcases search_fails_at_first_failing_file (Memory.ofWrites bracedWrites) stores.ofNames
    halfPrepared complete {} rfl {} with ⟨fails_iff, atFirst⟩
  rcases Option.ne_none_iff_exists'.mp (fails_iff.mpr ⟨_, trips⟩) with ⟨⟨path, failure⟩, failed⟩
  rcases atFirst path failure failed with
    ⟨alsoTrips, isFirst, error, outcome, rfl, -, ran, -, unwritten, -, unchecked, reported⟩
  have isPath : path = utf8 "app/b/c.php" := by
    rcases isFirst _ trips with same | before
    · exact same.symm
    · rcases (Config.trips_iff orderly complete).mp alsoTrips with ⟨walked, ends⟩
      rcases (stores.mem_walk plainRoot _).mp walked with ⟨file, isFile, -, rfl⟩
      exact absurd before (noneBefore file isFile ends)
  subst isPath
  have answer : halfPrepared.isIgnored (utf8 "app/b/c.php") = .error (.pattern .notCompiled) := rfl
  have isError := (Config.isIgnored_of_select failed).symm.trans answer
  cases isError
  exact ⟨failed, outcome, ran, unwritten, (reported (by decide)).1, unchecked⟩

end PhpLint
