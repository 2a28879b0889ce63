import PhpLint.Files.Memory
import PhpLint.Proofs.Location

namespace PhpLint
namespace Memory

/-!
# Files that have been written to a memory

A file is given by the names that lead to it. When no file is in the way of
another one, a memory to which files have been written holds these files, the
directories above them, and nothing else.

Writing a new file climbs from the file to the top directory and makes the
directories that are missing. The invariant `Holds` therefore has a directory as
a parameter: it and the directories above it may still be missing, but if one of
them is there, those above it are there as well. With the top directory as
parameter nothing is missing. `Stores` is the invariant between writes, together
with what is known of the files themselves.
-/

/-- The memory after files have been written one after another. -/
def ofWrites (writes : List (Bytes × Bytes)) : Memory :=
  writes.foldl (fun memory write => memory.put write.1 write.2) {}

/-- The files that have been written. The top directory is none. -/
def writtenFiles (writes : List (Bytes × Bytes)) : List (List Bytes) :=
  (writes.map fun write => (Location.ofPath write.1).parts).filter fun parts => parts ≠ []

/-- Where a memory keeps what some names lead to. -/
def spot (parts : List Bytes) : Location :=
  if parts = [] then top else ⟨false, parts⟩

/-- There is an entry for what some names lead to. -/
def Has (memory : Memory) (parts : List Bytes) : Prop :=
  ∃ entry ∈ memory.entries, entry.location = spot parts

/-- The entry of a file, or of a directory above a file, or of the top directory. -/
def Fits (files : List (List Bytes)) (entry : Entry) : Prop :=
  ∃ parts, entry.location = spot parts ∧
    ((parts ∈ files ∧ entry.isDirectory = false) ∨
      ((parts = [] ∨ ∃ file ∈ files, parts <+: file ∧ parts ≠ file) ∧ entry.isDirectory = true))

/-- The memory holds some files and the directories above them, except that the directory
`pending` and those above it may be missing. -/
structure Holds (memory : Memory) (files : List (List Bytes)) (pending : List Bytes) : Prop where
  distinct : memory.entries.Pairwise fun first second => first.location ≠ second.location
  listed : ∀ entry ∈ memory.entries, entry.listed = true
  fits : ∀ entry ∈ memory.entries, Fits files entry
  has_top : memory.Has []
  complete : ∀ file ∈ files, ∀ parts, parts <+: file → memory.Has parts ∨ parts <+: pending
  climbing : ∀ parts above, parts <+: pending → above <+: parts → memory.Has parts →
    memory.Has above

/-- No file is in the way of another one. -/
def Apart (files : List (List Bytes)) : Prop :=
  ∀ first ∈ files, ∀ second ∈ files, first <+: second → first = second

/-! ## Spots -/

theorem spot_of_ne_nil {parts : List Bytes} (nonempty : parts ≠ []) :
    spot parts = ⟨false, parts⟩ :=
  if_neg nonempty

theorem spot_injective {first second : List Bytes} (same : spot first = spot second) :
    first = second := by
  unfold spot at same
  split at same <;> split at same
  · next firstNil secondNil => rw [firstNil, secondNil]
  · cases same
  · cases same
  · exact congrArg Location.parts same

theorem spot_ne_top {parts : List Bytes} (nonempty : parts ≠ []) : spot parts ≠ top := by
  rw [spot_of_ne_nil nonempty]
  intro impossible
  cases impossible

/-- The top directory is the only plain location that is kept elsewhere. -/
theorem keep_eq_spot {parts : List Bytes} (noDotDot : Location.dotDot ∉ parts) :
    keep ⟨false, parts⟩ = spot parts := by
  have notUp : parts ≠ [Location.dotDot] := by
    intro same
    rw [same] at noDotDot
    exact noDotDot List.mem_cons_self
  by_cases empty : parts = []
  · subst empty
    rfl
  · simp only [keep, spot, empty, notUp, Bool.not_false, Bool.true_and, decide_false,
      Bool.or_self, Bool.false_eq_true, if_false]

theorem locate_eq_spot {path : Bytes} {parts : List Bytes}
    (located : Location.ofPath path = ⟨false, parts⟩) (noDotDot : Location.dotDot ∉ parts) :
    locate path = spot parts := by
  rw [locate, located, keep_eq_spot noDotDot]

theorem directoryOf_spot {parts : List Bytes} (nonempty : parts ≠ [])
    (noDotDot : Location.dotDot ∉ parts) : directoryOf (spot parts) = spot parts.dropLast := by
  rw [spot_of_ne_nil nonempty, directoryOf, Location.parent]
  exact keep_eq_spot fun member => noDotDot ((List.dropLast_sublist parts).subset member)

/-! ## Looking up entries -/

theorem Fits.mono {files more : List (List Bytes)} {entry : Entry}
    (subset : ∀ file ∈ files, file ∈ more) (fits : Fits files entry) : Fits more entry := by
  rcases fits with ⟨parts, located, ⟨member, kind⟩ | ⟨above, kind⟩⟩
  · exact ⟨parts, located, Or.inl ⟨subset parts member, kind⟩⟩
  · refine ⟨parts, located, Or.inr ⟨?_, kind⟩⟩
    rcases above with isTop | ⟨file, member, isAbove⟩
    · exact Or.inl isTop
    · exact Or.inr ⟨file, subset file member, isAbove⟩

theorem lookup?_eq_none_iff {memory : Memory} {parts : List Bytes} :
    memory.lookup? (spot parts) = none ↔ ¬ memory.Has parts := by
  simp only [lookup?, List.find?_eq_none, decide_eq_true_eq, Has, not_exists, not_and]

theorem Has.lookup? {memory : Memory} {parts : List Bytes} (present : memory.Has parts) :
    ∃ entry ∈ memory.entries, entry.location = spot parts ∧
      memory.lookup? (spot parts) = some entry := by
  cases found : memory.lookup? (spot parts) with
  | none => exact absurd present (lookup?_eq_none_iff.mp found)
  | some entry =>
    have same : entry.location = spot parts := by
      simpa using List.find?_some found
    exact ⟨entry, List.mem_of_find?_eq_some found, same, rfl⟩

namespace Holds

variable {memory : Memory} {files : List (List Bytes)} {pending : List Bytes}

/-- Nothing but files and the directories above them is held. -/
theorem reaches (holds : memory.Holds files pending) {parts : List Bytes}
    (present : memory.Has parts) : parts = [] ∨ ∃ file ∈ files, parts <+: file := by
  rcases present with ⟨entry, member, located⟩
  rcases holds.fits entry member with ⟨others, same, ⟨isFile, -⟩ | ⟨above, -⟩⟩
  · rw [spot_injective (located.symm.trans same)]
    exact Or.inr ⟨others, isFile, List.prefix_refl others⟩
  · rw [spot_injective (located.symm.trans same)]
    rcases above with isTop | ⟨file, isFile, isAbove, -⟩
    · exact Or.inl isTop
    · exact Or.inr ⟨file, isFile, isAbove⟩

/-- What is no file is held as a directory. -/
theorem isDirectory (holds : memory.Holds files pending) {entry : Entry} {parts : List Bytes}
    (member : entry ∈ memory.entries) (located : entry.location = spot parts)
    (noFile : parts ∉ files) : entry.isDirectory = true := by
  rcases holds.fits entry member with ⟨others, same, ⟨isFile, -⟩ | ⟨-, kind⟩⟩
  · rw [spot_injective (located.symm.trans same)] at noFile
    exact absurd isFile noFile
  · exact kind

/-- A file is held as a file, because no other file lies below it. -/
theorem isFile (holds : memory.Holds files pending) (apart : Apart files) {entry : Entry}
    {file : List Bytes} (member : entry ∈ memory.entries) (located : entry.location = spot file)
    (nonempty : file ≠ []) (isFile : file ∈ files) : entry.isDirectory = false := by
  rcases holds.fits entry member with ⟨others, same, ⟨-, kind⟩ | ⟨above, -⟩⟩
  · exact kind
  · rw [← spot_injective (located.symm.trans same)] at above
    rcases above with isTop | ⟨other, otherFile, isAbove, different⟩
    · exact absurd isTop nonempty
    · exact absurd (apart file isFile other otherFile isAbove) different

theorem has_of_prefix (holds : memory.Holds files []) {file parts : List Bytes}
    (isFile : file ∈ files) (above : parts <+: file) : memory.Has parts := by
  rcases holds.complete file isFile parts above with present | isTop
  · exact present
  · rw [List.prefix_nil.mp isTop]
    exact holds.has_top

/-- Only which files there are matters, not how often or in which order they are given. -/
theorem congr (holds : memory.Holds files pending) {others : List (List Bytes)}
    (same : ∀ file, file ∈ files ↔ file ∈ others) : memory.Holds others pending where
  distinct := holds.distinct
  listed := holds.listed
  fits := fun entry member => (holds.fits entry member).mono fun file => (same file).mp
  has_top := holds.has_top
  complete := fun file isFile => holds.complete file ((same file).mpr isFile)
  climbing := holds.climbing

/-- Once a pending directory is there, nothing is missing. -/
theorem close (holds : memory.Holds files pending) (present : memory.Has pending) :
    memory.Holds files [] where
  distinct := holds.distinct
  listed := holds.listed
  fits := holds.fits
  has_top := holds.has_top
  complete := by
    intro file isFile parts above
    rcases holds.complete file isFile parts above with here | isPending
    · exact Or.inl here
    · exact Or.inl (holds.climbing pending parts (List.prefix_refl pending) isPending present)
  climbing := by
    intro parts above isTop isAbove here
    rw [List.prefix_nil.mp isTop] at isAbove
    rw [List.prefix_nil.mp isAbove]
    exact holds.has_top

end Holds

/-! ## Making directories -/

theorem has_append {memory : Memory} {entry : Entry} {parts : List Bytes} :
    ({ memory with entries := memory.entries ++ [entry] } : Memory).Has parts ↔
      memory.Has parts ∨ entry.location = spot parts := by
  constructor
  · rintro ⟨found, member, located⟩
    rcases List.mem_append.mp member with old | new
    · exact Or.inl ⟨found, old, located⟩
    · rw [List.mem_singleton.mp new] at located
      exact Or.inr located
  · rintro (⟨found, member, located⟩ | located)
    · exact ⟨found, List.mem_append_left _ member, located⟩
    · exact ⟨entry, List.mem_append_right _ List.mem_cons_self, located⟩

theorem prefix_dropLast_of_ne {parts whole : List Bytes} (isPrefix : parts <+: whole)
    (different : parts ≠ whole) : parts <+: whole.dropLast := by
  rcases List.eq_nil_or_concat whole with empty | ⟨start, last, concat⟩
  · rw [empty] at isPrefix different
    exact absurd (List.prefix_nil.mp isPrefix) different
  · rw [concat, List.concat_eq_append] at isPrefix different ⊢
    rw [List.dropLast_concat]
    exact (List.prefix_concat_iff.mp isPrefix).resolve_left different

theorem not_prefix_dropLast {parts : List Bytes} (nonempty : parts ≠ []) :
    ¬ parts <+: parts.dropLast := by
  intro impossible
  have shorter := impossible.length_le
  have positive := List.length_pos_iff.mpr nonempty
  rw [List.length_dropLast] at shorter
  omega

namespace Holds

variable {memory : Memory} {files : List (List Bytes)} {pending : List Bytes}

/-- An entry is added below a directory that is pending from then on. -/
theorem append (holds : memory.Holds files pending) (entry : Entry) {parts : List Bytes}
    (nonempty : parts ≠ []) (located : entry.location = spot parts) (absent : ¬ memory.Has parts)
    (listed : entry.listed = true) (fits : Fits files entry)
    (reached : ∀ others, others <+: pending → memory.Has others ∨ others <+: parts)
    (above : ∀ others, others <+: parts.dropLast → memory.Has others →
      ∀ higher, higher <+: others → memory.Has higher) :
    ({ memory with entries := memory.entries ++ [entry] } : Memory).Holds files
      parts.dropLast where
  distinct := by
    refine List.pairwise_append.mpr ⟨holds.distinct, List.pairwise_singleton _ _, ?_⟩
    intro old member new isNew same
    rw [List.mem_singleton.mp isNew, located] at same
    exact absent ⟨old, member, same⟩
  listed := by
    intro other member
    rcases List.mem_append.mp member with old | new
    · exact holds.listed other old
    · rw [List.mem_singleton.mp new]
      exact listed
  fits := by
    intro other member
    rcases List.mem_append.mp member with old | new
    · exact holds.fits other old
    · rw [List.mem_singleton.mp new]
      exact fits
  has_top := has_append.mpr (Or.inl holds.has_top)
  complete := by
    intro file isFile others isAbove
    have reachable : memory.Has others ∨ others <+: parts := by
      rcases holds.complete file isFile others isAbove with here | isPending
      · exact Or.inl here
      · exact reached others isPending
    rcases reachable with here | isPrefix
    · exact Or.inl (has_append.mpr (Or.inl here))
    · by_cases same : others = parts
      · exact Or.inl (has_append.mpr (Or.inr (same ▸ located)))
      · exact Or.inr (prefix_dropLast_of_ne isPrefix same)
  climbing := by
    intro others higher isPending isAbove here
    rcases has_append.mp here with old | new
    · exact has_append.mpr (Or.inl (above others isPending old higher isAbove))
    · rw [← spot_injective (located.symm.trans new)] at isPending
      exact absurd isPending (not_prefix_dropLast nonempty)

/-- A directory above a file is no file. -/
theorem not_file_of_above (apart : Apart files) {parts : List Bytes}
    (isAbove : ∃ file ∈ files, parts <+: file ∧ parts ≠ file) : parts ∉ files := by
  rcases isAbove with ⟨file, isFile, isPrefix, different⟩
  intro alsoFile
  exact different (apart parts alsoFile file isFile isPrefix)

/-- What is a directory already is not changed by being made one. -/
theorem update_directory (holds : memory.Holds files pending) {parts : List Bytes}
    (noFile : parts ∉ files) :
    memory.update (spot parts) (fun entry => { entry with isDirectory := true }) = memory := by
  have unchanged : ∀ entry ∈ memory.entries,
      (if entry.location = spot parts then { entry with isDirectory := true } else entry) =
        entry := by
    intro entry member
    split
    · next located =>
      have kind := holds.isDirectory member located noFile
      cases entry
      simp only at kind
      rw [kind]
    · rfl
  unfold update
  rw [List.map_congr_left unchanged, List.map_id']

/-- Climbing from a directory above a file makes what is missing. The induction is on the number
of steps, which is enough for the names that lead to the directory. -/
theorem ensureDirectory (holds : memory.Holds files pending) (apart : Apart files)
    (noDotDot : Location.dotDot ∉ pending)
    (isAbove : ∃ file ∈ files, pending <+: file ∧ pending ≠ file) {fuel : Nat}
    (enough : pending.length < fuel) :
    (Memory.ensureDirectory fuel memory (spot pending)).Holds files [] := by
  induction fuel generalizing memory pending with
  | zero => exact absurd enough (Nat.not_lt_zero _)
  | succ fuel inductionHypothesis =>
    rw [Memory.ensureDirectory]
    by_cases present : memory.Has pending
    · rcases present.lookup? with ⟨entry, -, -, found⟩
      rw [found]
      simp only
      rw [holds.update_directory (not_file_of_above apart isAbove)]
      exact holds.close present
    · have nonempty : pending ≠ [] := by
        intro isTop
        exact present (isTop ▸ holds.has_top)
      rw [lookup?_eq_none_iff.mpr present]
      simp only
      rw [directoryOf_spot nonempty noDotDot]
      rcases isAbove with ⟨file, isFile, isPrefix, different⟩
      have climbed := holds.append { location := spot pending, isDirectory := true }
        nonempty rfl present rfl
        ⟨pending, rfl, Or.inr ⟨Or.inr ⟨file, isFile, isPrefix, different⟩, rfl⟩⟩
        (fun others isPending => Or.inr isPending)
        (fun others isPending here higher isHigher => holds.climbing others higher
          (isPending.trans (List.dropLast_prefix pending)) isHigher here)
      apply inductionHypothesis climbed
      · exact fun member => noDotDot ((List.dropLast_sublist pending).subset member)
      · refine ⟨file, isFile, (List.dropLast_prefix pending).trans isPrefix, ?_⟩
        intro same
        exact not_prefix_dropLast nonempty (same ▸ isPrefix)
      · have positive := List.length_pos_iff.mpr nonempty
        rw [List.length_dropLast]
        omega

/-! ## Writing files -/

theorem has_update_content {location : Location} {content : Bytes} {parts : List Bytes} :
    (memory.update location fun entry => { entry with content := content }).Has parts ↔
      memory.Has parts := by
  constructor
  · rintro ⟨entry, member, located⟩
    rcases List.mem_map.mp member with ⟨old, oldMember, rfl⟩
    refine ⟨old, oldMember, ?_⟩
    split at located <;> exact located
  · rintro ⟨entry, member, located⟩
    refine ⟨_, List.mem_map.mpr ⟨entry, member, rfl⟩, ?_⟩
    split <;> exact located

/-- The content of a file does not matter for what is held. -/
theorem update_content (holds : memory.Holds files pending) (location : Location)
    (content : Bytes) :
    (memory.update location fun entry => { entry with content := content }).Holds files
      pending where
  distinct := by
    refine List.pairwise_map.mpr (holds.distinct.imp ?_)
    intro first second different
    split <;> split <;> exact different
  listed := by
    intro entry member
    rcases List.mem_map.mp member with ⟨old, oldMember, rfl⟩
    split <;> exact holds.listed old oldMember
  fits := by
    intro entry member
    rcases List.mem_map.mp member with ⟨old, oldMember, rfl⟩
    split <;> exact holds.fits old oldMember
  has_top := has_update_content.mpr holds.has_top
  complete := by
    intro file isFile parts above
    rcases holds.complete file isFile parts above with here | isPending
    · exact Or.inl (has_update_content.mpr here)
    · exact Or.inr isPending
  climbing := by
    intro parts above isPending isAbove here
    exact has_update_content.mpr
      (holds.climbing parts above isPending isAbove (has_update_content.mp here))

/-- A new file is put in its place, and then the directories above it are made. -/
theorem add (holds : memory.Holds files []) {parts : List Bytes} (content : Bytes)
    (nonempty : parts ≠ []) (noDotDot : Location.dotDot ∉ parts)
    (apart : Apart (parts :: files)) (absent : ¬ memory.Has parts) :
    (memory.add { location := spot parts, content := content }).Holds (parts :: files) [] := by
  have more : memory.Holds (parts :: files) parts := by
    refine ⟨holds.distinct, holds.listed, ?_, holds.has_top, ?_, ?_⟩
    · intro entry member
      exact (holds.fits entry member).mono fun file isFile => List.mem_cons_of_mem parts isFile
    · intro file isFile others above
      rcases List.mem_cons.mp isFile with same | old
      · exact Or.inr (same ▸ above)
      · exact Or.inl (holds.has_of_prefix old above)
    · intro others above isPending isAbove here
      rcases holds.reaches here with isTop | ⟨file, isFile, isPrefix⟩
      · rw [isTop] at isAbove
        rw [List.prefix_nil.mp isAbove]
        exact holds.has_top
      · exact holds.has_of_prefix isFile (isAbove.trans isPrefix)
  have placed := more.append { location := spot parts, content := content } nonempty rfl absent rfl
    ⟨parts, rfl, Or.inl ⟨List.mem_cons_self, rfl⟩⟩ (fun others isPending => Or.inr isPending)
    (fun others isPending here higher isHigher => more.climbing others higher
      (isPending.trans (List.dropLast_prefix parts)) isHigher here)
  rw [Memory.add, directoryOf_spot nonempty noDotDot]
  apply placed.ensureDirectory apart
  · exact fun member => noDotDot ((List.dropLast_sublist parts).subset member)
  · refine ⟨parts, List.mem_cons_self, List.dropLast_prefix parts, ?_⟩
    intro same
    exact not_prefix_dropLast nonempty (same.symm ▸ List.prefix_refl parts)
  · simp only [spot_of_ne_nil nonempty, List.length_dropLast]
    omega

/-- Writing a file adds it to the files that are held, whether or not it was held before. -/
theorem put (holds : memory.Holds files []) {path : Bytes} (content : Bytes) {parts : List Bytes}
    (located : Location.ofPath path = ⟨false, parts⟩) (nonempty : parts ≠ [])
    (noDotDot : Location.dotDot ∉ parts) (apart : Apart (parts :: files)) :
    (memory.put path content).Holds (parts :: files) [] := by
  rw [Memory.put, locate_eq_spot located noDotDot]
  by_cases present : memory.Has parts
  · rcases present.lookup? with ⟨entry, -, -, found⟩
    have alreadyFile : parts ∈ files := by
      rcases holds.reaches present with isTop | ⟨file, isFile, isPrefix⟩
      · exact absurd isTop nonempty
      · rw [apart parts List.mem_cons_self file (List.mem_cons_of_mem parts isFile) isPrefix]
        exact isFile
    rw [found]
    refine (holds.update_content (spot parts) content).congr fun file => ?_
    simp only [List.mem_cons]
    constructor
    · exact Or.inr
    · rintro (rfl | isFile)
      · exact alreadyFile
      · exact isFile
  · rw [lookup?_eq_none_iff.mpr present]
    exact holds.add content nonempty noDotDot apart present

/-- Nothing is added by writing to the top directory. -/
theorem put_top (holds : memory.Holds files []) {path : Bytes} (content : Bytes)
    (located : Location.ofPath path = ⟨false, []⟩) : (memory.put path content).Holds files [] := by
  rw [Memory.put, locate_eq_spot located List.not_mem_nil]
  rcases holds.has_top.lookup? with ⟨entry, -, -, found⟩
  rw [found]
  exact holds.update_content (spot []) content

end Holds

theorem Apart.subset {files fewer : List (List Bytes)} (apart : Apart files)
    (subset : ∀ file ∈ fewer, file ∈ files) : Apart fewer :=
  fun first isFirst second isSecond =>
    apart first (subset first isFirst) second (subset second isSecond)

theorem holds_empty : ({} : Memory).Holds [] [] where
  distinct := List.pairwise_singleton _ _
  listed := fun entry member => by rw [List.mem_singleton.mp member]
  fits := fun entry member => by
    rw [List.mem_singleton.mp member]
    exact ⟨[], rfl, Or.inr ⟨Or.inl rfl, rfl⟩⟩
  has_top := ⟨_, List.mem_cons_self, rfl⟩
  complete := fun file impossible => absurd impossible List.not_mem_nil
  climbing := fun parts above isTop isAbove here => by
    rw [List.prefix_nil.mp isTop] at isAbove here
    exact List.prefix_nil.mp isAbove ▸ here

theorem holds_foldl {memory : Memory} {files : List (List Bytes)} (holds : memory.Holds files [])
    {writes : List (Bytes × Bytes)} (plain : ∀ write ∈ writes, (Location.ofPath write.1).Plain)
    (apart : Apart (files ++ writtenFiles writes)) :
    (writes.foldl (fun memory write => memory.put write.1 write.2) memory).Holds
      (files ++ writtenFiles writes) [] := by
  induction writes generalizing memory files with
  | nil => exact (List.append_nil files).symm ▸ holds
  | cons write rest inductionHypothesis =>
    have isPlain := plain write List.mem_cons_self
    have restPlain : ∀ other ∈ rest, (Location.ofPath other.1).Plain :=
      fun other member => plain other (List.mem_cons_of_mem write member)
    by_cases isTop : (Location.ofPath write.1).parts = []
    · have same : writtenFiles (write :: rest) = writtenFiles rest := by
        simp [writtenFiles, isTop]
      rw [same] at apart ⊢
      exact inductionHypothesis
        (holds.put_top write.2 (isTop ▸ isPlain.ofPath_eq)) restPlain apart
    · have same : writtenFiles (write :: rest) =
          (Location.ofPath write.1).parts :: writtenFiles rest := by
        simp [writtenFiles, isTop]
      have moved : ∀ file, file ∈ ((Location.ofPath write.1).parts :: files) ++ writtenFiles rest ↔
          file ∈ files ++ writtenFiles (write :: rest) := by
        intro file
        rw [same]
        simp only [List.cons_append, List.mem_cons, List.mem_append]
        exact or_left_comm
      have stillApart := apart.subset fun file member => (moved file).mp member
      have written := holds.put write.2 isPlain.ofPath_eq isTop isPlain.no_dotDot
        (stillApart.subset fun file member => List.mem_append_left _ member)
      exact (inductionHypothesis written restPlain stillApart).congr moved

/-- What a memory is like between writes: it holds some files and the directories above them,
the files have proper names, and none of them is in the way of another. -/
structure Stores (memory : Memory) (files : List (List Bytes)) : Prop where
  holds : memory.Holds files []
  apart : Apart files
  nonempty : ∀ file ∈ files, file ≠ []
  names : ∀ file ∈ files, ∀ part ∈ file, Location.IsName part

namespace Stores

variable {memory : Memory} {files : List (List Bytes)}

theorem congr (stores : memory.Stores files) {others : List (List Bytes)}
    (same : ∀ file, file ∈ files ↔ file ∈ others) : memory.Stores others where
  holds := stores.holds.congr same
  apart := stores.apart.subset fun file => (same file).mpr
  nonempty := fun file isFile => stores.nonempty file ((same file).mpr isFile)
  names := fun file isFile => stores.names file ((same file).mpr isFile)

theorem names_of_has (stores : memory.Stores files) {parts : List Bytes}
    (present : memory.Has parts) : ∀ part ∈ parts, Location.IsName part := by
  intro part member
  rcases stores.holds.reaches present with isTop | ⟨file, isFile, isPrefix⟩
  · rw [isTop] at member
    exact absurd member List.not_mem_nil
  · exact stores.names file isFile part (isPrefix.subset member)

theorem no_dotDot (stores : memory.Stores files) {parts : List Bytes}
    (present : memory.Has parts) : Location.dotDot ∉ parts :=
  fun impossible => (stores.names_of_has present _ impossible).ne_dotDot rfl

theorem has_file (stores : memory.Stores files) {file : List Bytes} (isFile : file ∈ files) :
    memory.Has file :=
  stores.holds.has_of_prefix isFile (List.prefix_refl file)

end Stores

/-- A memory to which files have been written stores these files. -/
theorem ofWrites_stores {writes : List (Bytes × Bytes)}
    (plain : ∀ write ∈ writes, (Location.ofPath write.1).Plain)
    (apart : Apart (writtenFiles writes)) :
    (ofWrites writes).Stores (writtenFiles writes) := by
  have proper : ∀ file ∈ writtenFiles writes,
      file ≠ [] ∧ ∀ part ∈ file, Location.IsName part := by
    intro file isFile
    rcases List.mem_filter.mp isFile with ⟨member, nonempty⟩
    rcases List.mem_map.mp member with ⟨write, written, rfl⟩
    exact ⟨by simpa using nonempty, (plain write written).names⟩
  exact ⟨holds_foldl holds_empty plain apart, apart, fun file isFile => (proper file isFile).1,
    fun file isFile => (proper file isFile).2⟩

end Memory
end PhpLint
