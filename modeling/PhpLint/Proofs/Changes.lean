import PhpLint.Proofs.Memory

namespace PhpLint
namespace Memory

/-!
# What a change leaves alone

Writing a file changes the entries at its location and at the directories above it. The
entries at all other locations are the same as before and in the same order, so whatever
is asked about other places has the same answer. At the location itself there is then what
has been written.

Memories whose entries stand at the top or at relative locations without double dots are
`OfNames`. This is what all writing and removing with such paths leads to, also if files
have been in the way of each other and if directories with something in them have been
removed.
-/

/-! ## The other entries -/

/-- The entries that are not at one of some locations. -/
def away (memory : Memory) (changed : List Location) : List Entry :=
  memory.entries.filter fun entry => entry.location ∉ changed

section Away

variable {memory others : Memory} {changed : List Location}

theorem mem_away_iff {entry : Entry} :
    entry ∈ memory.away changed ↔ entry ∈ memory.entries ∧ entry.location ∉ changed := by
  rw [away, List.mem_filter, decide_eq_true_eq]

theorem away_append {entry : Entry} (isChanged : entry.location ∈ changed) :
    ({ memory with entries := memory.entries ++ [entry] } : Memory).away changed =
      memory.away changed := by
  have dropped : [entry].filter (fun entry => entry.location ∉ changed) = [] := by
    simpa using isChanged
  simp only [away, List.filter_append]
  rw [dropped, List.append_nil]

theorem away_update {location : Location} {change : Entry → Entry}
    (isChanged : location ∈ changed)
    (stays : ∀ entry, (change entry).location = entry.location) :
    (memory.update location change).away changed = memory.away changed := by
  unfold away update
  induction memory.entries with
  | nil => rfl
  | cons entry rest inductionHypothesis =>
    rw [List.map_cons, List.filter_cons, List.filter_cons, inductionHypothesis]
    by_cases here : entry.location = location
    · have old : ¬ decide (entry.location ∉ changed) = true := by
        simpa [here] using isChanged
      have new : ¬ decide ((change entry).location ∉ changed) = true := by
        rwa [stays entry]
      rw [if_pos here, if_neg old, if_neg new]
    · rw [if_neg here]

/-- Making directories changes nothing else if all directories above are among the locations. -/
theorem away_ensureDirectory (closed : ∀ location ∈ changed, directoryOf location ∈ changed)
    (fuel : Nat) {location : Location} (isChanged : location ∈ changed) :
    (ensureDirectory fuel memory location).away changed = memory.away changed := by
  induction fuel generalizing memory location with
  | zero => rfl
  | succ fuel inductionHypothesis =>
    rw [ensureDirectory]
    split
    · exact away_update isChanged fun _ => rfl
    · rw [inductionHypothesis (closed location isChanged)]
      exact away_append isChanged

theorem away_put (closed : ∀ location ∈ changed, directoryOf location ∈ changed)
    {path : Bytes} (content : Bytes) (isChanged : locate path ∈ changed) :
    (memory.put path content).away changed = memory.away changed := by
  rw [put]
  split
  · exact away_update isChanged fun _ => rfl
  · rw [add, away_ensureDirectory closed _ (closed _ isChanged)]
    exact away_append isChanged

/-! ## What is asked about other places -/

theorem lookup?_eq_find?_away {location : Location} (unchanged : location ∉ changed) :
    memory.lookup? location =
      (memory.away changed).find? fun entry => entry.location = location := by
  have only : (fun entry : Entry => decide (decide (entry.location ∉ changed) = true ∧
      decide (entry.location = location) = true)) =
        fun entry => decide (entry.location = location) := by
    funext entry
    by_cases here : entry.location = location <;> simp [here, unchanged]
  rw [lookup?, away, List.find?_filter, only]

theorem lookup?_eq_of_away_eq (same : others.away changed = memory.away changed)
    {location : Location} (unchanged : location ∉ changed) :
    others.lookup? location = memory.lookup? location := by
  rw [lookup?_eq_find?_away unchanged, lookup?_eq_find?_away unchanged, same]

theorem openEntry_eq_of_away_eq (same : others.away changed = memory.away changed)
    {path : Bytes} (unchanged : locate path ∉ changed) :
    others.openEntry path = memory.openEntry path := by
  rw [openEntry, openEntry, lookup?_eq_of_away_eq same unchanged]

/-- Whether an entry is named by the directory at a path. -/
def isNamedIn (directory : Bytes) (entry : Entry) : Bool :=
  entry.listed && entry.location != top && directoryOf entry.location = locate directory

/-- A directory names the same as before if nothing directly in it is among the locations. -/
theorem namesIn_eq_of_away_eq (same : others.away changed = memory.away changed)
    {directory : Bytes}
    (elsewhere : ∀ location ∈ changed, location ≠ top → directoryOf location ≠ locate directory) :
    others.namesIn directory = memory.namesIn directory := by
  have filtered (memory : Memory) : memory.entries.filter (isNamedIn directory) =
      (memory.away changed).filter (isNamedIn directory) := by
    rw [away, List.filter_filter]
    apply List.filter_congr
    intro entry _
    by_cases isChanged : entry.location ∈ changed
    · have notNamed : isNamedIn directory entry = false := by
        by_cases atTop : entry.location = top
        · simp [isNamedIn, atTop]
        · simp [isNamedIn, elsewhere entry.location isChanged atTop]
      rw [notNamed, Bool.false_and]
    · simp [isChanged]
  have names (memory : Memory) : memory.namesIn directory = sortNames
      ((memory.entries.filter (isNamedIn directory)).map fun entry => entry.location.base) := rfl
  rw [names, names, filtered, filtered, same]

/-! ## Depth -/

theorem depth_le_succ_iff {count : Nat} :
    memory.depth ≤ count + 1 ↔
      ∀ entry ∈ memory.entries, entry.location.parts.length ≤ count := by
  rw [depth, Nat.add_le_add_iff_right]
  by_cases empty : memory.entries = []
  · simp [empty]
  · have nonempty : (memory.entries.map fun entry => entry.location.parts.length) ≠ [] := by
      simpa using empty
    rw [List.foldl_max_eq_max nonempty, Nat.zero_max, List.max_le_iff]
    simp

/-- Changes at locations that are not deep do not make a memory deeper in which something else is
as deep. -/
theorem depth_le_of_away_eq (same : others.away changed = memory.away changed) {count : Nat}
    (shallow : ∀ location ∈ changed, location.parts.length ≤ count) {entry : Entry}
    (member : entry ∈ memory.away changed) (deep : count ≤ entry.location.parts.length) :
    others.depth ≤ memory.depth := by
  have bounded : ∀ other ∈ memory.entries,
      other.location.parts.length ≤ memory.depth - 1 := by
    apply depth_le_succ_iff.mp
    omega
  have positive : 0 < memory.depth := Nat.succ_pos _
  have atLeast := bounded entry (mem_away_iff.mp member).1
  rw [← Nat.sub_add_cancel positive]
  apply depth_le_succ_iff.mpr
  intro other isOther
  by_cases isChanged : other.location ∈ changed
  · have short := shallow other.location isChanged
    omega
  · have kept : other ∈ memory.away changed := same ▸ mem_away_iff.mpr ⟨isOther, isChanged⟩
    exact bounded other (mem_away_iff.mp kept).1

theorem depth_eq_of_away_eq (same : others.away changed = memory.away changed) {count : Nat}
    (shallow : ∀ location ∈ changed, location.parts.length ≤ count) {entry : Entry}
    (member : entry ∈ memory.away changed) (deep : count ≤ entry.location.parts.length) :
    others.depth = memory.depth := by
  apply Nat.le_antisymm
  · exact depth_le_of_away_eq same shallow member deep
  · exact depth_le_of_away_eq same.symm shallow (same ▸ member) deep

end Away

/-! ## Contents -/

section Contents

variable {memory : Memory}

/-- What is read at a location. -/
def contentAt? (memory : Memory) (location : Location) : Option Bytes :=
  (memory.lookup? location).map Entry.content

theorem openEntry_of_contentAt? {path content : Bytes}
    (stored : memory.contentAt? (locate path) = some content) :
    ∃ entry, memory.openEntry path = .ok entry ∧ entry.content = content := by
  rcases Option.map_eq_some_iff.mp stored with ⟨entry, found, holds⟩
  exact ⟨entry, by rw [openEntry, found], holds⟩

theorem location_of_lookup? {location : Location} {entry : Entry}
    (found : memory.lookup? location = some entry) : entry.location = location := by
  simpa using List.find?_some found

/-- A new entry does not hide what was there before. -/
theorem lookup?_append_of_some {location : Location} {entry : Entry}
    (found : memory.lookup? location = some entry) (other : Entry) :
    ({ memory with entries := memory.entries ++ [other] } : Memory).lookup? location =
      some entry := by
  rw [lookup?] at found
  rw [lookup?, List.find?_append, found, Option.some_or]

theorem lookup?_update {location other : Location} {change : Entry → Entry}
    (stays : ∀ entry, (change entry).location = entry.location) :
    (memory.update location change).lookup? other =
      (memory.lookup? other).map fun entry =>
        if entry.location = location then change entry else entry := by
  have sameTest : (fun entry : Entry => decide (entry.location = other)) ∘
      (fun entry => if entry.location = location then change entry else entry) =
        fun entry => decide (entry.location = other) := by
    funext entry
    rw [Function.comp_apply]
    split
    · rw [stays entry]
    · rfl
  rw [lookup?, lookup?, update, List.find?_map, sameTest]

/-- Making directories leaves an entry as it is or makes it a directory with the same content. -/
theorem lookup?_ensureDirectory_of_some (fuel : Nat) (above : Location) {location : Location}
    {entry : Entry} (found : memory.lookup? location = some entry) :
    (ensureDirectory fuel memory above).lookup? location = some entry ∨
      (ensureDirectory fuel memory above).lookup? location =
        some { entry with isDirectory := true } := by
  induction fuel generalizing memory above with
  | zero => exact Or.inl found
  | succ fuel inductionHypothesis =>
    rw [ensureDirectory]
    split
    · rw [lookup?_update, found, Option.map_some]
      · split
        · exact Or.inr rfl
        · exact Or.inl rfl
      · exact fun _ => rfl
    · exact inductionHypothesis _ (lookup?_append_of_some found _)

/-- Everything is to be read as before. -/
theorem contentAt?_ensureDirectory (fuel : Nat) {above location : Location} {content : Bytes}
    (stored : memory.contentAt? location = some content) :
    (ensureDirectory fuel memory above).contentAt? location = some content := by
  rcases Option.map_eq_some_iff.mp stored with ⟨entry, found, rfl⟩
  rcases lookup?_ensureDirectory_of_some fuel above found with same | same
  · rw [contentAt?, same, Option.map_some]
  · rw [contentAt?, same, Option.map_some]

/-- What has been written can be read. -/
theorem contentAt?_put (memory : Memory) (path content : Bytes) :
    (memory.put path content).contentAt? (locate path) = some content := by
  rw [put]
  cases found : memory.lookup? (locate path) with
  | some entry =>
    simp only
    rw [contentAt?, lookup?_update, found, Option.map_some, Option.map_some,
      if_pos (location_of_lookup? found)]
    exact fun _ => rfl
  | none =>
    apply contentAt?_ensureDirectory
    rw [lookup?] at found
    simp [contentAt?, lookup?, List.find?_append, found]

theorem exists?_put (memory : Memory) (path content : Bytes) :
    (memory.put path content).view.exists? path = .ok true := by
  rcases openEntry_of_contentAt? (contentAt?_put memory path content) with ⟨entry, opened, -⟩
  simp only [Files.exists?, view, kindOf, opened]
  rfl

theorem read_put (memory : Memory) (path content : Bytes) :
    (memory.put path content).view.read path = .ok content := by
  rcases openEntry_of_contentAt? (contentAt?_put memory path content) with ⟨entry, opened, holds⟩
  simp only [view, opened]
  exact congrArg Except.ok holds

end Contents

/-! ## Memories of names -/

/-- Everything stands at the top or where some names lead to. -/
def OfNames (memory : Memory) : Prop :=
  ∀ entry ∈ memory.entries, ∃ parts, entry.location = spot parts ∧
    ∀ part ∈ parts, Location.IsName part

theorem ofNames_empty : ({} : Memory).OfNames := by
  intro entry member
  rw [List.mem_singleton.mp member]
  exact ⟨[], rfl, fun _ impossible => absurd impossible List.not_mem_nil⟩

theorem locate_eq_spot_of_plain {path : Bytes} (plain : (Location.ofPath path).Plain) :
    locate path = spot (Location.ofPath path).parts :=
  locate_eq_spot plain.ofPath_eq plain.no_dotDot

/-- The directory above what some names lead to, which for the top is the top itself. -/
theorem directoryOf_spot_of_names {parts : List Bytes}
    (names : ∀ part ∈ parts, Location.IsName part) :
    directoryOf (spot parts) = spot parts.dropLast := by
  by_cases isTop : parts = []
  · subst isTop
    rfl
  · exact directoryOf_spot isTop fun member => (names _ member).ne_dotDot rfl

namespace OfNames

variable {memory : Memory}

theorem append (ofNames : memory.OfNames) {entry : Entry} {parts : List Bytes}
    (located : entry.location = spot parts) (names : ∀ part ∈ parts, Location.IsName part) :
    ({ memory with entries := memory.entries ++ [entry] } : Memory).OfNames := by
  intro other member
  rcases List.mem_append.mp member with old | new
  · exact ofNames other old
  · rw [List.mem_singleton.mp new]
    exact ⟨parts, located, names⟩

theorem update (ofNames : memory.OfNames) (location : Location) {change : Entry → Entry}
    (stays : ∀ entry, (change entry).location = entry.location) :
    (memory.update location change).OfNames := by
  intro entry member
  rcases List.mem_map.mp member with ⟨old, isOld, rfl⟩
  split
  · rw [stays old]
    exact ofNames old isOld
  · exact ofNames old isOld

theorem ensureDirectory (ofNames : memory.OfNames) (fuel : Nat) {parts : List Bytes}
    (names : ∀ part ∈ parts, Location.IsName part) :
    (Memory.ensureDirectory fuel memory (spot parts)).OfNames := by
  induction fuel generalizing memory parts with
  | zero => exact ofNames
  | succ fuel inductionHypothesis =>
    rw [Memory.ensureDirectory]
    split
    · exact ofNames.update _ fun _ => rfl
    · rw [directoryOf_spot_of_names names]
      apply inductionHypothesis (ofNames.append rfl names)
      exact fun part member => names part ((List.dropLast_sublist parts).subset member)

theorem add (ofNames : memory.OfNames) {entry : Entry} {parts : List Bytes}
    (located : entry.location = spot parts) (names : ∀ part ∈ parts, Location.IsName part) :
    (memory.add entry).OfNames := by
  rw [Memory.add, located, directoryOf_spot_of_names names]
  apply (ofNames.append located names).ensureDirectory
  exact fun part member => names part ((List.dropLast_sublist parts).subset member)

theorem put (ofNames : memory.OfNames) {path : Bytes} (plain : (Location.ofPath path).Plain)
    (content : Bytes) : (memory.put path content).OfNames := by
  rw [Memory.put]
  split
  · exact ofNames.update _ fun _ => rfl
  · exact ofNames.add (locate_eq_spot_of_plain plain) plain.names

theorem makeDirectory (ofNames : memory.OfNames) {path : Bytes}
    (plain : (Location.ofPath path).Plain) : (memory.makeDirectory path).OfNames := by
  rw [Memory.makeDirectory]
  split
  · exact ofNames
  · exact ofNames.add (locate_eq_spot_of_plain plain) plain.names

theorem remove (ofNames : memory.OfNames) {path : Bytes} {removed : Memory}
    (success : memory.remove path = .ok removed) : removed.OfNames := by
  simp only [Memory.remove] at success
  split at success
  · cases success
  · split at success
    · cases success
    · cases success
      intro entry member
      rcases List.mem_map.mp member with ⟨old, isOld, rfl⟩
      have before := ofNames old (List.mem_filter.mp isOld).1
      split <;> exact before

/-- A directory calls its entries by proper names. -/
theorem isName_of_mem_namesIn (ofNames : memory.OfNames) {directory name : Bytes}
    (listed : name ∈ memory.namesIn directory) : Location.IsName name := by
  have unsorted := (List.mergeSort_perm _ _).mem_iff.mp listed
  rcases List.mem_map.mp unsorted with ⟨entry, named, rfl⟩
  rcases List.mem_filter.mp named with ⟨member, isNamed⟩
  rcases ofNames entry member with ⟨parts, located, names⟩
  have notTop : entry.location ≠ top := by
    simp only [Bool.and_eq_true, bne_iff_ne] at isNamed
    exact isNamed.1.2
  have nonempty : parts ≠ [] := by
    intro isTop
    rw [isTop] at located
    exact notTop located
  rcases List.eq_nil_or_concat parts with impossible | ⟨start, last, concat⟩
  · exact absurd impossible nonempty
  · rw [located, spot_of_ne_nil nonempty, Location.base, concat, List.concat_eq_append,
      List.getLastD_concat]
    apply names
    rw [concat, List.concat_eq_append]
    exact List.mem_append_right start List.mem_cons_self

end OfNames
end Memory
end PhpLint
