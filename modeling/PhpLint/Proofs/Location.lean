import PhpLint.Files.Location
import PhpLint.Proofs.Bytes

namespace PhpLint

/-!
# Paths and locations

The parts of a location are the pieces of a path that are left when the path is
cleaned. A relative location without double dots is the list of the names that
lead to a file, and its shortest path spells exactly these names. So such a
location can be read back from its path, and a name can be put behind it.
-/

namespace Location

/-- What a directory can call one of its entries. -/
structure IsName (part : Bytes) : Prop where
  ne_nil : part ≠ []
  ne_dot : part ≠ dot
  ne_dotDot : part ≠ dotDot
  no_slash : Bytes.slash ∉ part

/-- A location below the directory that paths start from. -/
structure Plain (location : Location) : Prop where
  relative : location.rooted = false
  no_dotDot : dotDot ∉ location.parts

/-! ## Cleaning -/

theorem addPart_of_isName {part : Bytes} (name : IsName part) (rooted : Bool)
    (before : List Bytes) : addPart rooted before part = part :: before := by
  simp only [addPart, name.ne_nil, name.ne_dot, name.ne_dotDot, decide_false, Bool.or_self,
    Bool.false_eq_true, if_false]

/-- What cleaning keeps of a path: pieces without a slash, neither empty nor a single dot. -/
def IsKept (part : Bytes) : Prop :=
  part ≠ [] ∧ part ≠ dot ∧ Bytes.slash ∉ part

theorem IsName.isKept {part : Bytes} (name : IsName part) : IsKept part :=
  ⟨name.ne_nil, name.ne_dot, name.no_slash⟩

theorem dotDot_isKept : IsKept dotDot := by
  unfold IsKept
  decide

/-- Cleaning adds no part but double dots. -/
theorem mem_addPart {rooted : Bool} {before : List Bytes} {part other : Bytes}
    (member : other ∈ addPart rooted before part) :
    other = dotDot ∨ other ∈ before ∨ other = part ∧ part ≠ [] ∧ part ≠ dot := by
  unfold addPart at member
  split at member
  · exact Or.inr (Or.inl member)
  · next neither =>
    simp only [Bool.or_eq_true, decide_eq_true_eq, not_or] at neither
    split at member
    · split at member
      · split at member
        · exact absurd member List.not_mem_nil
        · exact Or.inl (List.mem_singleton.mp member)
      · next last rest =>
        split at member
        · rcases List.mem_cons.mp member with same | later
          · exact Or.inl same
          · exact Or.inr (Or.inl later)
        · exact Or.inr (Or.inl (List.mem_cons_of_mem last member))
    · rcases List.mem_cons.mp member with same | later
      · exact Or.inr (Or.inr ⟨same, neither⟩)
      · exact Or.inr (Or.inl later)

theorem mem_foldl_addPart {rooted : Bool} {parts before : List Bytes} {other : Bytes}
    (member : other ∈ parts.foldl (addPart rooted) before) :
    other = dotDot ∨ other ∈ before ∨ other ∈ parts ∧ other ≠ [] ∧ other ≠ dot := by
  induction parts generalizing before with
  | nil => exact Or.inr (Or.inl member)
  | cons part rest inductionHypothesis =>
    rcases inductionHypothesis member with dots | here | ⟨later, proper⟩
    · exact Or.inl dots
    · rcases mem_addPart here with dots | earlier | ⟨rfl, proper⟩
      · exact Or.inl dots
      · exact Or.inr (Or.inl earlier)
      · exact Or.inr (Or.inr ⟨List.mem_cons_self, proper⟩)
    · exact Or.inr (Or.inr ⟨List.mem_cons_of_mem part later, proper⟩)

/-- The parts of a location are double dots and pieces of the path. -/
theorem mem_parts_ofPath {path part : Bytes} (member : part ∈ (ofPath path).parts) :
    part = dotDot ∨ part ∈ Bytes.split Bytes.slash path ∧ part ≠ [] ∧ part ≠ dot := by
  rcases mem_foldl_addPart (List.mem_reverse.mp member) with dots | impossible | piece
  · exact Or.inl dots
  · exact absurd impossible List.not_mem_nil
  · exact Or.inr piece

theorem ofPath_kept (path : Bytes) : ∀ part ∈ (ofPath path).parts, IsKept part := by
  intro part member
  rcases mem_parts_ofPath member with dots | ⟨piece, notNil, notDot⟩
  · rw [dots]
    exact dotDot_isKept
  · exact ⟨notNil, notDot, Bytes.not_mem_of_mem_split piece⟩

/-- The parts of a plain location are names. -/
theorem Plain.names {path : Bytes} (plain : (ofPath path).Plain) :
    ∀ part ∈ (ofPath path).parts, IsName part := by
  intro part member
  rcases ofPath_kept path part member with ⟨notNil, notDot, noSlash⟩
  exact ⟨notNil, notDot, fun same => plain.no_dotDot (same ▸ member), noSlash⟩

theorem Plain.ofPath_eq {path : Bytes} (plain : (ofPath path).Plain) :
    ofPath path = ⟨false, (ofPath path).parts⟩ := by
  rw [← plain.relative]

/-! ## Cleaning again

The parts of a location stand the other way round here, as they do while a path is cleaned.
-/

/-- Each part stays where it is when it is put on the parts before it. -/
def Settled (rooted : Bool) : List Bytes → Prop
  | [] => True
  | last :: before => addPart rooted before last = last :: before ∧ Settled rooted before

theorem settled_addPart {rooted : Bool} {before : List Bytes} (settled : Settled rooted before)
    (part : Bytes) : Settled rooted (addPart rooted before part) := by
  by_cases skipped : (part = [] || part = dot) = true
  · have stays : addPart rooted before part = before := if_pos skipped
    rwa [stays]
  · by_cases isUp : part = dotDot
    · subst isUp
      cases before with
      | nil => cases rooted <;> simp [addPart, Settled, skipped]
      | cons last rest =>
        by_cases lastUp : last = dotDot
        · have stays : addPart rooted (last :: rest) dotDot = dotDot :: last :: rest := by
            simp only [addPart, skipped, lastUp, Bool.false_eq_true, if_true, if_false]
          rw [stays]
          exact ⟨stays, settled⟩
        · have dropped : addPart rooted (last :: rest) dotDot = rest := by
            simp only [addPart, skipped, lastUp, Bool.false_eq_true, if_true, if_false]
          rw [dropped]
          exact settled.2
    · have stays : addPart rooted before part = part :: before := by
        simp only [addPart, skipped, isUp, Bool.false_eq_true, if_false]
      rw [stays]
      exact ⟨stays, settled⟩

theorem settled_foldl {rooted : Bool} {before : List Bytes} (settled : Settled rooted before)
    (parts : List Bytes) : Settled rooted (parts.foldl (addPart rooted) before) := by
  induction parts generalizing before with
  | nil => exact settled
  | cons part rest inductionHypothesis => exact inductionHypothesis (settled_addPart settled part)

theorem Settled.foldl_reverse {rooted : Bool} {parts : List Bytes}
    (settled : Settled rooted parts) : parts.reverse.foldl (addPart rooted) [] = parts := by
  induction parts with
  | nil => rfl
  | cons last before inductionHypothesis =>
    rw [List.reverse_cons, List.foldl_append, inductionHypothesis settled.2]
    exact settled.1

theorem settled_of_names (rooted : Bool) {parts : List Bytes}
    (names : ∀ part ∈ parts, IsName part) : Settled rooted parts := by
  induction parts with
  | nil => trivial
  | cons last before inductionHypothesis =>
    exact ⟨addPart_of_isName (names last List.mem_cons_self) rooted before,
      inductionHypothesis fun part member => names part (List.mem_cons_of_mem last member)⟩

/-! ## The path of a location -/

/-- What a path can name: cleaning it again changes nothing. -/
structure Clean (location : Location) : Prop where
  kept : ∀ part ∈ location.parts, IsKept part
  settled : Settled location.rooted location.parts.reverse

theorem clean_ofPath (path : Bytes) : (ofPath path).Clean where
  kept := ofPath_kept path
  settled := by
    have start : Settled (ofPath path).rooted [] := trivial
    rw [ofPath, List.reverse_reverse]
    exact settled_foldl start _

theorem clean_of_names {parts : List Bytes} (names : ∀ part ∈ parts, IsName part) :
    Clean ⟨false, parts⟩ where
  kept := fun part member => (names part member).isKept
  settled := settled_of_names false fun part member => names part (List.mem_reverse.mp member)

theorem head?_join_ne_slash {parts : List Bytes} (kept : ∀ part ∈ parts, IsKept part) :
    (Bytes.join [Bytes.slash] parts).head? ≠ some Bytes.slash := by
  cases parts with
  | nil => simp [Bytes.join]
  | cons part rest =>
    rcases kept part List.mem_cons_self with ⟨notNil, -, noSlash⟩
    cases part with
    | nil => exact absurd rfl notNil
    | cons b others =>
      have different : b ≠ Bytes.slash := fun same => noSlash (same ▸ List.mem_cons_self)
      cases rest <;> simpa [Bytes.join] using different

/-- A location that a path can name is the location of its shortest path. -/
theorem Clean.ofPath_path {location : Location} (clean : location.Clean) :
    ofPath location.path = location := by
  rcases location with ⟨rooted, parts⟩
  rcases clean with ⟨kept, settled⟩
  cases parts with
  | nil => cases rooted <;> decide
  | cons part rest =>
    have pieces :
        Bytes.split Bytes.slash (Bytes.join [Bytes.slash] (part :: rest)) = part :: rest :=
      Bytes.split_join (by simp) fun other member => (kept other member).2.2
    have cleaned : (part :: rest).foldl (addPart rooted) [] = (part :: rest).reverse := by
      have again := settled.foldl_reverse
      rwa [List.reverse_reverse] at again
    cases rooted with
    | true =>
      -- nothing stands before the slash at the beginning
      have leading : addPart true [] [] = [] := rfl
      simp only [path, ofPath, if_true, List.head?_cons, beq_self_eq_true, Bytes.split, pieces]
      rw [List.foldl_cons, leading, cleaned, List.reverse_reverse]
    | false =>
      have relative :
          ((Bytes.join [Bytes.slash] (part :: rest)).head? == some Bytes.slash) = false := by
        simpa using head?_join_ne_slash kept
      simp only [path, ofPath, Bool.false_eq_true, if_false, reduceCtorEq, relative, pieces]
      rw [cleaned, List.reverse_reverse]

/-- A relative location of names is the location of its path. -/
theorem ofPath_path {parts : List Bytes} (names : ∀ part ∈ parts, IsName part) :
    ofPath (path ⟨false, parts⟩) = ⟨false, parts⟩ :=
  (clean_of_names names).ofPath_path

/-- A name is the path to an entry of the directory that paths start from. -/
theorem ofPath_of_isName {name : Bytes} (isName : IsName name) : ofPath name = ⟨false, [name]⟩ := by
  have single : path ⟨false, [name]⟩ = name := rfl
  have names : ∀ part ∈ [name], IsName part := by
    intro part member
    rwa [List.mem_singleton.mp member]
  rw [← ofPath_path names, single]

/-- The shortest path has no bytes that are not in the path, except slashes and dots. -/
theorem mem_path_ofPath {path : Bytes} {b : UInt8} (member : b ∈ (ofPath path).path) :
    b = Bytes.slash ∨ b ∈ dotDot ∨ b ∈ path := by
  have inParts (joined : b ∈ Bytes.join [Bytes.slash] (ofPath path).parts) :
      b = Bytes.slash ∨ b ∈ dotDot ∨ b ∈ path := by
    rcases Bytes.mem_join joined with between | ⟨part, listed, inside⟩
    · exact Or.inl (List.mem_singleton.mp between)
    · rcases mem_parts_ofPath listed with dots | ⟨piece, _⟩
      · exact Or.inr (Or.inl (dots ▸ inside))
      · exact Or.inr (Or.inr (Bytes.mem_of_mem_split piece inside))
  unfold Location.path at member
  split at member
  · rcases List.mem_cons.mp member with same | joined
    · exact Or.inl same
    · exact inParts joined
  · split at member
    · exact Or.inr (Or.inl (List.mem_of_mem_head? (List.mem_singleton.mp member ▸ rfl)))
    · exact inParts member

/-- A name is put behind the parts of a directory. -/
theorem joinPath_eq {directory name : Bytes} {parts : List Bytes}
    (located : ofPath directory = ⟨false, parts⟩) (isName : IsName name) :
    joinPath directory name = path ⟨false, parts ++ [name]⟩ := by
  rw [joinPath, located, child, addPart_of_isName isName, List.reverse_cons,
    List.reverse_reverse]

/-- A name in any directory, also in one above that from which paths start. -/
theorem ofPath_joinPath (directory : Bytes) {name : Bytes} (isName : IsName name) :
    ofPath (joinPath directory name) =
      ⟨(ofPath directory).rooted, (ofPath directory).parts ++ [name]⟩ := by
  have clean := clean_ofPath directory
  have child : (ofPath directory).child name =
      ⟨(ofPath directory).rooted, (ofPath directory).parts ++ [name]⟩ := by
    rw [Location.child, addPart_of_isName isName, List.reverse_cons, List.reverse_reverse]
  rw [joinPath, child]
  apply Clean.ofPath_path
  constructor
  · intro part member
    rcases List.mem_append.mp member with above | last
    · exact clean.kept part above
    · rw [List.mem_singleton.mp last]
      exact isName.isKept
  · rw [List.reverse_append]
    exact ⟨addPart_of_isName isName _ _, clean.settled⟩

end Location
end PhpLint
