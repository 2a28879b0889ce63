import Mathlib.Logic.Function.Iterate
import PhpLint.Proofs.Template

namespace PhpLint

/-!
# Creating the configuration file damages nothing

The configuration file is only created where there is nothing, whatever the spelling of
its path. Then it is the one new file, and what else is new are directories above it.
Everything that was there is still there with the same content. Once the file is there,
writing to the memory never takes it away, so creating it again changes nothing.
-/

namespace Memory

/-! ## Directories above a location -/

/-- The location of the directory of an entry, or of a directory further up. -/
def IsAbove (above location : Location) : Prop :=
  ∃ steps, directoryOf^[steps + 1] location = above

theorem length_keep_le (location : Location) :
    (keep location).parts.length ≤ location.parts.length := by
  rw [keep]
  split
  · exact Nat.zero_le _
  · exact Nat.le_refl _

theorem length_directoryOf_le (location : Location) :
    (directoryOf location).parts.length ≤ location.parts.length - 1 := by
  have kept := length_keep_le location.parent
  rwa [Location.parent, List.length_dropLast] at kept

theorem length_iterate_directoryOf_le (steps : Nat) (location : Location) :
    (directoryOf^[steps] location).parts.length ≤ location.parts.length - steps := by
  induction steps generalizing location with
  | zero => exact Nat.le_refl _
  | succ steps inductionHypothesis =>
    have first := length_directoryOf_le location
    have later := inductionHypothesis (directoryOf location)
    rw [Function.iterate_succ_apply]
    omega

/-- Only the top is kept at a location without parts. -/
theorem parts_locate_ne_nil {path : Bytes} (notTop : locate path ≠ top) :
    (locate path).parts ≠ [] := by
  intro empty
  apply notTop
  rcases located : Location.ofPath path with ⟨rooted, parts⟩
  rw [locate, located] at empty ⊢
  cases rooted with
  | false =>
    rw [keep] at empty ⊢
    split
    · rfl
    · next elsewhere =>
      rw [if_neg elsewhere] at empty
      have noParts : parts = [] := empty
      subst noParts
      exact absurd rfl elsewhere
  | true =>
    have kept : keep ⟨true, parts⟩ = ⟨true, parts⟩ := rfl
    rw [kept] at empty ⊢
    rw [top, ← empty]

/-- Nothing but the top lies above itself. -/
theorem not_isAbove_self {path : Bytes} (notTop : locate path ≠ top) :
    ¬ IsAbove (locate path) (locate path) := by
  rintro ⟨steps, same⟩
  have positive := List.length_pos_iff.mpr (parts_locate_ne_nil notTop)
  have shorter := length_iterate_directoryOf_le (steps + 1) (locate path)
  rw [same] at shorter
  omega

/-! ## Writing a new file -/

section Put

variable {memory : Memory} {location : Location} {entry : Entry}

theorem lookup?_append_of_ne (different : entry.location ≠ location) :
    ({ memory with entries := memory.entries ++ [entry] } : Memory).lookup? location =
      memory.lookup? location := by
  have unmatched : [entry].find? (fun entry => entry.location = location) = none := by
    simpa using different
  rw [lookup?, List.find?_append, unmatched, Option.or_none, lookup?]

theorem lookup?_update_of_ne {other : Location} {change : Entry → Entry}
    (stays : ∀ entry, (change entry).location = entry.location) (different : other ≠ location) :
    (memory.update other change).lookup? location = memory.lookup? location := by
  rw [lookup?_update stays]
  cases found : memory.lookup? location with
  | none => rfl
  | some entry =>
    have notThere : entry.location ≠ other := by
      rw [location_of_lookup? found]
      exact Ne.symm different
    rw [Option.map_some, if_neg notThere]

/-- Making directories changes nothing that is neither one of them nor above them. -/
theorem lookup?_ensureDirectory_of_ne (fuel : Nat) {start : Location}
    (elsewhere : ∀ steps, directoryOf^[steps] start ≠ location) :
    (ensureDirectory fuel memory start).lookup? location = memory.lookup? location := by
  induction fuel generalizing memory start with
  | zero => rfl
  | succ fuel inductionHypothesis =>
    have notHere : start ≠ location := elsewhere 0
    rw [ensureDirectory]
    split
    · apply lookup?_update_of_ne _ notHere
      exact fun _ => rfl
    · rw [inductionHypothesis fun steps => elsewhere (steps + 1)]
      exact lookup?_append_of_ne notHere

variable {path content : Bytes}

/-- What is neither new nor above the new file is as before. -/
theorem lookup?_put_of_not_isAbove (different : locate path ≠ location)
    (notAbove : ¬ IsAbove location (locate path)) :
    (memory.put path content).lookup? location = memory.lookup? location := by
  rw [put]
  split
  · apply lookup?_update_of_ne _ different
    exact fun _ => rfl
  · rw [add, lookup?_ensureDirectory_of_ne]
    · exact lookup?_append_of_ne different
    · exact fun steps same => notAbove ⟨steps, same⟩

/-- A new file leaves every entry as it is, except that it may make it a directory. -/
theorem lookup?_put_of_some (absent : memory.lookup? (locate path) = none)
    (found : memory.lookup? location = some entry) :
    (memory.put path content).lookup? location = some entry ∨
      (memory.put path content).lookup? location = some { entry with isDirectory := true } := by
  rw [put, absent]
  exact lookup?_ensureDirectory_of_some _ _ (lookup?_append_of_some found _)

/-- A new file stays a file unless it stands at the top. -/
theorem lookup?_put_self (absent : memory.lookup? (locate path) = none)
    (notTop : locate path ≠ top) :
    (memory.put path content).lookup? (locate path) =
      some { location := locate path, content := content } := by
  rw [put, absent]
  simp only
  rw [add, lookup?_ensureDirectory_of_ne]
  · rw [lookup?] at absent
    simp [lookup?, List.find?_append, absent]
  · exact fun steps same => not_isAbove_self notTop ⟨steps, same⟩

/-- Writing takes nothing away. -/
theorem isSome_lookup?_put (present : (memory.lookup? location).isSome) (path content : Bytes) :
    ((memory.put path content).lookup? location).isSome := by
  rcases Option.isSome_iff_exists.mp present with ⟨entry, found⟩
  cases absent : memory.lookup? (locate path) with
  | none =>
    rcases lookup?_put_of_some absent found with same | same <;> rw [same, Option.isSome_some]
  | some old =>
    rw [put, absent]
    simp only
    rw [lookup?_update, found, Option.map_some, Option.isSome_some]
    exact fun _ => rfl

theorem readOnly_ensureDirectory (fuel : Nat) (memory : Memory) (start : Location) :
    (ensureDirectory fuel memory start).readOnly = memory.readOnly := by
  induction fuel generalizing memory start with
  | zero => rfl
  | succ fuel inductionHypothesis =>
    rw [ensureDirectory]
    split
    · rfl
    · rw [inductionHypothesis]

theorem readOnly_put (memory : Memory) (path content : Bytes) :
    (memory.put path content).readOnly = memory.readOnly := by
  rw [put]
  split
  · rfl
  · rw [add, readOnly_ensureDirectory]

end Put

/-! ## What is seen of the entries -/

section Seen

variable {memory : Memory} {path : Bytes}

theorem kind_eq_ok_iff {kind : FileKind} :
    memory.view.kind path = .ok kind ↔
      ∃ entry, memory.lookup? (locate path) = some entry ∧
        kind = if entry.isDirectory then .directory else .file := by
  simp only [view, kindOf, openEntry]
  cases memory.lookup? (locate path) with
  | none =>
    constructor
    · intro impossible
      cases impossible
    · rintro ⟨entry, impossible, _⟩
      cases impossible
  | some entry =>
    constructor
    · intro same
      exact ⟨entry, rfl, (Except.ok.inj same).symm⟩
    · rintro ⟨_, same, rfl⟩
      cases same
      rfl

theorem read_of_lookup? {entry : Entry} (found : memory.lookup? (locate path) = some entry) :
    memory.view.read path = .ok entry.content := by
  simp only [view, openEntry, found]
  rfl

theorem lookup?_of_read {content : Bytes} (isRead : memory.view.read path = .ok content) :
    ∃ entry, memory.lookup? (locate path) = some entry ∧ entry.content = content := by
  simp only [view, openEntry] at isRead
  cases found : memory.lookup? (locate path) with
  | none =>
    rw [found] at isRead
    cases isRead
  | some entry =>
    rw [found] at isRead
    exact ⟨entry, rfl, Except.ok.inj isRead⟩

theorem exists?_eq (memory : Memory) (path : Bytes) :
    memory.view.exists? path = .ok (memory.lookup? (locate path)).isSome := by
  simp only [Files.exists?, view, kindOf, openEntry]
  cases memory.lookup? (locate path) with
  | none => rfl
  | some entry => rfl

end Seen

/-- No file stands where a directory above the path has to be. -/
def Unobstructed (memory : Memory) (path : Bytes) : Prop :=
  ∀ other, memory.view.kind other = .ok .file → ¬ IsAbove (locate other) (locate path)

end Memory

/-! ## Creating the file -/

namespace Template

/-- Why the file was not created, if so, and the store afterwards. -/
def attempt {σ : Type} [FileStore σ] (store : σ) (path : Bytes) : Option Error × σ :=
  match create store path with
  | .ok created => (none, created)
  | .error error => (some error, store)

variable {memory : Memory} {path : Bytes}

theorem attempt_of_present (present : (memory.lookup? (Memory.locate path)).isSome) :
    attempt memory path = (none, memory) := by
  have isThere : (FileStore.view memory).exists? path = .ok true := by
    rw [← present]
    exact memory.exists?_eq path
  rw [attempt, create, isThere]

theorem attempt_of_readOnly (absent : memory.lookup? (Memory.locate path) = none)
    (readOnly : memory.readOnly = true) :
    attempt memory path = (some (.uncreated .denied), memory) := by
  have isAbsent : (FileStore.view memory).exists? path = .ok false := by
    have exists? := memory.exists?_eq path
    rwa [absent] at exists?
  have denied : FileStore.write memory path content = .error .denied := if_pos readOnly
  rw [attempt, create, isAbsent]
  simp only [denied]

theorem attempt_of_writable (absent : memory.lookup? (Memory.locate path) = none)
    (writable : memory.readOnly = false) :
    attempt memory path = (none, memory.put path content) := by
  have isAbsent : memory.view.exists? path = .ok false := by
    rw [memory.exists?_eq, absent, Option.isSome_none]
  rw [attempt, create_of_absent writable isAbsent]

/-- What creating the file at a path has made of a memory. -/
structure Created (memory : Memory) (path : Bytes) (created : Memory) : Prop where
  writable : created.readOnly = false
  /-- The path holds exactly the template. -/
  read_path : created.view.read path = .ok content
  kind_path : Memory.locate path ≠ Memory.top → created.view.kind path = .ok .file
  /-- Everything can be read as before. -/
  read : ∀ other text, memory.view.read other = .ok text → created.view.read other = .ok text
  /-- Files are still files, and directories are still directories. -/
  kind : memory.Unobstructed path →
    ∀ other kind, memory.view.kind other = .ok kind → created.view.kind other = .ok kind
  /-- Nothing is new but the file and directories above it. -/
  elsewhere : ∀ other, Memory.locate path ≠ Memory.locate other →
    ¬ Memory.IsAbove (Memory.locate other) (Memory.locate path) →
    created.view.kind other = memory.view.kind other ∧
      created.view.read other = memory.view.read other

theorem created_put (absent : memory.lookup? (Memory.locate path) = none)
    (writable : memory.readOnly = false) : Created memory path (memory.put path content) where
  writable := (memory.readOnly_put path content).trans writable
  read_path := memory.read_put path content
  kind_path := by
    intro notTop
    exact Memory.kind_eq_ok_iff.mpr ⟨_, Memory.lookup?_put_self absent notTop, rfl⟩
  read := by
    intro other text isRead
    rcases Memory.lookup?_of_read isRead with ⟨entry, found, rfl⟩
    rcases Memory.lookup?_put_of_some absent found with same | same
    · exact Memory.read_of_lookup? same
    · have isReadAgain := Memory.read_of_lookup? same
      exact isReadAgain
  kind := by
    intro unobstructed other kind isKind
    rcases Memory.kind_eq_ok_iff.mp isKind with ⟨entry, found, rfl⟩
    apply Memory.kind_eq_ok_iff.mpr
    cases isDirectory : entry.isDirectory with
    | true =>
      rcases Memory.lookup?_put_of_some absent found with same | same
      · exact ⟨_, same, by rw [isDirectory]⟩
      · exact ⟨_, same, rfl⟩
    | false =>
      rw [isDirectory] at isKind
      have different : Memory.locate path ≠ Memory.locate other := by
        intro same
        rw [← same, absent] at found
        cases found
      refine ⟨entry, ?_, by rw [isDirectory]⟩
      rw [Memory.lookup?_put_of_not_isAbove different (unobstructed other isKind), found]
  elsewhere := by
    intro other different notAbove
    have same : (memory.put path content).openEntry other = memory.openEntry other := by
      rw [Memory.openEntry, Memory.openEntry, Memory.lookup?_put_of_not_isAbove different notAbove]
    simp only [Memory.view, Memory.kindOf, same, and_self]

/-! ## Afterwards -/

/-- What happens to a memory: somebody writes a file, or the configuration file is to be created. -/
inductive Event where
  | write (path content : Bytes)
  | create (path : Bytes)

/-- The memory after an event. If a file cannot be written, nothing changes. -/
def Event.after (memory : Memory) : Event → Memory
  | .write path content =>
    match memory.write path content with
    | .ok written => written
    | .error _ => memory
  | .create path => (attempt memory path).2

/-- The memory after some events. -/
def afterAll (memory : Memory) (events : List Event) : Memory :=
  events.foldl Event.after memory

/-- An event leaves a memory as it is, or a file is written. -/
theorem Event.after_cases (memory : Memory) (event : Event) :
    event.after memory = memory ∨
      ∃ path text, event.after memory = memory.put path text := by
  cases event with
  | write path text =>
    rw [Event.after, Memory.write]
    cases memory.readOnly with
    | true => exact Or.inl rfl
    | false => exact Or.inr ⟨path, text, rfl⟩
  | create path =>
    rw [Event.after]
    cases found : memory.lookup? (Memory.locate path) with
    | some entry =>
      rw [attempt_of_present (by rw [found, Option.isSome_some])]
      exact Or.inl rfl
    | none =>
      cases readOnly : memory.readOnly with
      | true =>
        rw [attempt_of_readOnly found readOnly]
        exact Or.inl rfl
      | false =>
        rw [attempt_of_writable found readOnly]
        exact Or.inr ⟨path, content, rfl⟩

theorem isSome_lookup?_afterAll {location : Location} (present : (memory.lookup? location).isSome)
    (events : List Event) : ((afterAll memory events).lookup? location).isSome := by
  induction events generalizing memory with
  | nil => exact present
  | cons event rest inductionHypothesis =>
    apply inductionHypothesis
    rcases event.after_cases memory with unchanged | ⟨path, text, written⟩
    · rwa [unchanged]
    · rw [written]
      exact Memory.isSome_lookup?_put present path text

end Template

/-- Where there is a file or a directory, creating the configuration file succeeds and leaves the
memory as it is, also if it is read-only. Where there is nothing, it fails in a read-only memory,
which stays as it is, and in another one it makes the file and leaves all others alone. Whatever is
written after that and however often the file is to be created, at whatever spelling of its path,
this succeeds and changes nothing more. -/
theorem creating_template_damages_nothing (memory : Memory) (path : Bytes) :
    ((∃ kind, memory.view.kind path = .ok kind) →
      Template.attempt memory path = (none, memory)) ∧
    ((∀ kind, memory.view.kind path ≠ .ok kind) →
      (memory.readOnly = true →
        Template.attempt memory path = (some (.uncreated .denied), memory)) ∧
      (memory.readOnly = false →
        ∃ created, Template.attempt memory path = (none, created) ∧
          Template.Created memory path created ∧
          ∀ (events : List Template.Event) (spelling : Bytes),
            Memory.locate spelling = Memory.locate path →
            Template.attempt (Template.afterAll created events) spelling =
              (none, Template.afterAll created events))) := by
  constructor
  · rintro ⟨kind, isKind⟩
    rcases Memory.kind_eq_ok_iff.mp isKind with ⟨entry, found, _⟩
    exact Template.attempt_of_present (by rw [found, Option.isSome_some])
  · intro noKind
    have absent : memory.lookup? (Memory.locate path) = none := by
      cases found : memory.lookup? (Memory.locate path) with
      | none => rfl
      | some entry => exact absurd (Memory.kind_eq_ok_iff.mpr ⟨entry, found, rfl⟩) (noKind _)
    refine ⟨Template.attempt_of_readOnly absent, ?_⟩
    intro writable
    refine ⟨_, Template.attempt_of_writable absent writable,
      Template.created_put absent writable, ?_⟩
    intro events spelling same
    apply Template.attempt_of_present
    apply Template.isSome_lookup?_afterAll
    have stored := memory.contentAt?_put path Template.content
    rw [same, ← Option.isSome_map, ← Memory.contentAt?, stored, Option.isSome_some]

/-- Two files in directories of their own, and no configuration file. -/
def unconfiguredProject : Memory :=
  (Memory.put {} (utf8 "app/a.php") (utf8 "\x7d")).put (utf8 "conf/notes") (utf8 "none")

theorem creating_template_in_unconfiguredProject :
    ∃ created, Template.attempt unconfiguredProject (utf8 "conf//old/../new/./x.yaml") =
        (none, created) ∧
      created.view.read (utf8 "conf/new/x.yaml") = .ok Template.content ∧
      created.view.read (utf8 "conf/notes") = .ok (utf8 "none") ∧
      (∀ text, ∃ rewritten, created.write (utf8 "./conf/new/x.yaml") text = .ok rewritten ∧
        Template.attempt rewritten (utf8 "conf/new/x.yaml") = (none, rewritten)) ∧
      Template.attempt { unconfiguredProject with readOnly := true } (utf8 "./app") =
        (none, { unconfiguredProject with readOnly := true }) ∧
      Template.attempt { unconfiguredProject with readOnly := true } (utf8 "app/b.php") =
        (some (.uncreated .denied), { unconfiguredProject with readOnly := true }) := by
  have absent : ∀ kind,
      unconfiguredProject.view.kind (utf8 "conf//old/../new/./x.yaml") ≠ .ok kind := by
    intro kind
    cases kind <;> decide +kernel
  have samePlace : Memory.locate (utf8 "conf/new/x.yaml") =
      Memory.locate (utf8 "conf//old/../new/./x.yaml") := by
    decide +kernel
  rcases (creating_template_damages_nothing unconfiguredProject _).2 absent with ⟨_, ofWritable⟩
  rcases ofWritable rfl with ⟨created, attempted, isCreated, afterwards⟩
  refine ⟨created, attempted, ?_, isCreated.read _ _ (by decide +kernel), ?_, ?_, ?_⟩
  · have isRead := isCreated.read_path
    simp only [Memory.view, Memory.openEntry] at isRead ⊢
    rwa [samePlace]
  · intro text
    have written : created.write (utf8 "./conf/new/x.yaml") text =
        .ok (created.put (utf8 "./conf/new/x.yaml") text) := by
      rw [Memory.write, isCreated.writable]
      rfl
    have rewritten : Template.afterAll created [.write (utf8 "./conf/new/x.yaml") text] =
        created.put (utf8 "./conf/new/x.yaml") text := by
      simp only [Template.afterAll, List.foldl_cons, List.foldl_nil, Template.Event.after, written]
    refine ⟨_, written, ?_⟩
    rw [← rewritten]
    exact afterwards _ _ samePlace
  · apply (creating_template_damages_nothing _ _).1
    exact ⟨.directory, by decide +kernel⟩
  · apply ((creating_template_damages_nothing _ _).2 _).1 rfl
    intro kind
    cases kind <;> decide +kernel

end PhpLint
