import Mathlib.Data.List.Forall2
import PhpLint.Config.Read

namespace PhpLint

/-!
# Where settings come from

What a document sets can be traced back to its nodes, as long as nothing is wrong
with it. The list of ignored files is the value of a pair of some mapping that can
be come to from the root, through aliases and merged mappings. It has one element
for each item, in order: a missing element for null, and a pattern for a mapping.
-/

namespace Yaml.Document

/-- What a node stands for, if it is an alias, and else the node itself. -/
def resolve? (document : Document) : Node → Option Node
  | .alias _ _ target _ => document.anchored? target
  | node => some node

/-- The nodes that can be come to from the root, apart from keys. -/
inductive Holds (document : Document) : Node → Prop
  | root : Holds document document.root
  | item {line : Nat} {tag : Bytes} {items : List Node} {node : Node} :
      Holds document (.sequence line tag items) → node ∈ items → Holds document node
  | value {line : Nat} {tag : Bytes} {pairs : List (Node × Node)} {pair : Node × Node} :
      Holds document (.mapping line tag pairs) → pair ∈ pairs → Holds document pair.2
  | target {node target : Node} :
      Holds document node → document.resolve? node = some target → Holds document target

end Yaml.Document

namespace Settings

open Yaml

variable {α : Type} {document : Document}

/-! ## Readings without problems -/

namespace Progress

/-- Nothing was wrong, and the reading came to its end. -/
structure Clean (progress : Progress α) : Prop where
  problems : progress.problems = []
  aborted : progress.aborted = false

theorem clean_map_iff {β : Type} {f : α → β} {progress : Progress α} :
    (progress.map f).Clean ↔ progress.Clean :=
  ⟨fun clean => ⟨clean.problems, clean.aborted⟩, fun clean => ⟨clean.problems, clean.aborted⟩⟩

/-- Both steps of a clean reading are clean, and the second gives the value. -/
theorem clean_andThen {β : Type} {progress : Progress α} {stopped : α → β}
    {next : α → Effort → Progress β} (clean : (progress.andThen stopped next).Clean) :
    progress.Clean ∧ (next progress.value progress.effort).Clean ∧
      (progress.andThen stopped next).value = (next progress.value progress.effort).value := by
  have aborted := clean.aborted
  have problems := clean.problems
  unfold andThen at aborted problems ⊢
  by_cases stops : progress.aborted = true
  · rw [if_pos stops] at aborted
    exact absurd (stops.symm.trans aborted) (by decide)
  · rw [if_neg stops] at aborted problems ⊢
    rcases List.append_eq_nil_iff.mp problems with ⟨before, after⟩
    exact ⟨⟨before, Bool.eq_false_iff.mpr stops⟩, ⟨after, aborted⟩, rfl⟩

end Progress

/-! ## Nodes and what they hold -/

section

variable {followed : List Nat} {effort : Effort} {node : Node} {arrival : Arrival}

theorem resolve?_of_follow? (follows : follow? document followed effort node = some arrival) :
    document.resolve? node = some arrival.node := by
  unfold follow? at follows
  split at follows
  · cases follows
  · split at follows
    · split at follows
      · cases follows
      · split at follows
        · next anchored counted =>
          cases follows
          exact anchored
        · cases follows
    · next notAlias =>
      cases follows
      unfold Document.resolve?
      split
      · next line name number serial => exact absurd rfl (notAlias line name number serial)
      · rfl

theorem tag_eq_null_of_content {tag text : Bytes}
    (content : scalarContent? tag text = some .null) : tag = Tag.null := by
  unfold scalarContent? at content
  split at content
  · cases content
  · split at content
    · assumption
    · split at content
      · rcases Option.map_eq_some_iff.mp content with ⟨_, _, impossible⟩
        cases impossible
      · cases content

/-- The text of a node. -/
def HasText (document : Document) (node : Node) (value : Bytes) : Prop :=
  ∃ line tag text, document.resolve? node = some (.scalar line tag text) ∧
    scalarContent? tag text = some (.text value)

/-- What a sight tells about the node. -/
def Sight.Tells (document : Document) (node : Node) : Sight → Prop
  | .lost => True
  | .null _ => ∃ line text, document.resolve? node = some (.scalar line Tag.null text)
  | .text _ value => HasText document node value
  | .collection arrival => document.resolve? node = some arrival.node

theorem sight_tells (document : Document) (followed : List Nat) (effort : Effort) (node : Node) :
    (sight document followed effort node).Tells document node := by
  unfold sight
  cases follows : follow? document followed effort node with
  | none => trivial
  | some arrival =>
    have resolved := resolve?_of_follow? follows
    rcases arrival with ⟨nowFollowed, counted, ⟨line, tag, text⟩ | _ | _ | _⟩
    · cases content : scalarContent? tag text with
      | none => simp only [content, Sight.Tells]
      | some known =>
        cases known with
        | null =>
          rw [tag_eq_null_of_content content] at resolved
          simp only [content, Sight.Tells]
          exact ⟨line, text, resolved⟩
        | text value =>
          simp only [content, Sight.Tells]
          exact ⟨line, tag, text, resolved, content⟩
    · exact resolved
    · exact resolved
    · exact resolved

theorem hasText_of_readText {value : Bytes}
    (read : (readText document followed effort node).value = some value) :
    HasText document node value := by
  have tells := sight_tells document followed effort node
  unfold readText at read
  cases seen : sight document followed effort node with
  | text arrival content =>
    rw [seen] at tells read
    cases read
    exact tells
  | lost | null arrival | collection arrival => simp [seen] at read

end

/-! ## The list of ignored files -/

/-- What an item of a sequence is as an element of the list of ignored files. -/
inductive IsElement (document : Document) (node : Node) : Option Pattern → Prop
  | null {line : Nat} {text : Bytes} :
      document.resolve? node = some (.scalar line Tag.null text) → IsElement document node none
  | pattern {line : Nat} {tag : Bytes} {pairs : List (Node × Node)} (pattern : Pattern) :
      document.resolve? node = some (.mapping line tag pairs) →
      IsElement document node (some pattern)

section

variable {fuel : Nat} {followed : List Nat} {effort : Effort}

theorem isElement_of_readElement {node : Node}
    (clean : (readElement document fuel followed effort node).Clean) :
    ∃ element, (readElement document fuel followed effort node).value = some element ∧
      IsElement document node element := by
  have tells := sight_tells document followed effort node
  unfold readElement at clean ⊢
  cases seen : sight document followed effort node with
  | lost =>
    rw [seen] at clean
    cases clean.aborted
  | null arrival =>
    rw [seen] at tells
    rcases tells with ⟨line, text, resolved⟩
    exact ⟨none, rfl, .null resolved⟩
  | text arrival value =>
    rw [seen] at clean
    cases clean.problems
  | collection arrival =>
    rw [seen] at tells clean
    rcases arrival with ⟨nowFollowed, counted, _ | _ | ⟨line, tag, pairs⟩ | _⟩
    · cases clean.problems
    · cases clean.problems
    · simp only at clean ⊢
      split at clean
      · next duplicate => exact absurd clean.problems (by simpa using duplicate)
      · next unique =>
        rw [if_neg unique]
        exact ⟨_, rfl, .pattern _ tells⟩
    · cases clean.problems

/-- A clean reading leaves no item out. -/
theorem isElement_of_readElements {items : List Node}
    (clean : (readElements document fuel followed items effort).Clean) :
    List.Forall₂ (IsElement document) items
      (readElements document fuel followed items effort).value := by
  induction items generalizing effort with
  | nil => exact .nil
  | cons node rest inductionHypothesis =>
    rcases clean with ⟨problems, aborted⟩
    unfold readElements at problems aborted ⊢
    cases stopped : (readElement document fuel followed effort node).aborted with
    | true => simp [stopped, Progress.map] at aborted
    | false =>
      simp only [stopped, Bool.false_eq_true, if_false] at problems aborted ⊢
      rcases List.append_eq_nil_iff.mp problems with ⟨first, others⟩
      rcases isElement_of_readElement ⟨first, stopped⟩ with ⟨element, value, isElement⟩
      have later := inductionHypothesis ⟨others, aborted⟩
      -- nothing is padded, since the later items have been read to the end
      simp only [value, aborted, Bool.false_and, Bool.false_eq_true, if_false, List.append_nil]
      exact .cons isElement later

/-- The elements are those of a sequence that the node stands for, unless there are none. -/
def AreElements (document : Document) (node : Node) (elements : List (Option Pattern)) : Prop :=
  elements = [] ∨ ∃ line tag items, document.resolve? node = some (.sequence line tag items) ∧
    List.Forall₂ (IsElement document) items elements

theorem areElements_of_readIgnoreList {node : Node} {elements : List (Option Pattern)}
    (clean : (readIgnoreList document fuel followed effort node).Clean)
    (read : (readIgnoreList document fuel followed effort node).value = some elements) :
    AreElements document node elements := by
  have tells := sight_tells document followed effort node
  unfold readIgnoreList at clean read
  cases seen : sight document followed effort node with
  | lost | text arrival value => simp [seen] at read
  | null arrival =>
    rw [seen] at read
    cases read
    exact Or.inl rfl
  | collection arrival =>
    rw [seen] at tells clean read
    rcases arrival with ⟨nowFollowed, counted, _ | ⟨line, tag, items⟩ | _ | _⟩
    · cases read
    · cases read
      exact Or.inr ⟨line, tag, items, tells,
        isElement_of_readElements (Progress.clean_map_iff.mp clean)⟩
    · cases read
    · cases read

end

/-! ## Mappings -/

/-- Some mapping of the document has the node as the value of a name. -/
def Sets (document : Document) (name : Bytes) (node : Node) : Prop :=
  ∃ line tag pairs key, document.Holds (.mapping line tag pairs) ∧ (key, node) ∈ pairs ∧
    HasText document key name

/-- The fields keep a property of the value that is being built, as long as they are set by pairs
of the document and nothing is wrong. -/
def Fields.Keep (fields : Fields α) (document : Document) (good : α → Prop) : Prop :=
  ∀ followed effort name node value, Sets document name node → good value →
    (fields.assign followed effort name node value).Clean →
    good (fields.assign followed effort name node value).value

section

variable {fields : Fields α} {good : α → Prop}

/-- What is known of a mapping while its pairs are read. -/
structure PairsState.Fine (document : Document) (good : α → Prop) (state : PairsState α) :
    Prop where
  value : good state.value
  merge : ∀ node, state.merge? = some node → document.Holds node

theorem readPair_fine (keep : fields.Keep document good) {followed : List Nat} {line : Nat}
    {tag : Bytes} {pairs : List (Node × Node)} {pair : Node × Node} {state : PairsState α}
    {effort : Effort} (held : document.Holds (.mapping line tag pairs)) (member : pair ∈ pairs)
    (fine : state.Fine document good)
    (clean : (readPair document fields followed pair state effort).Clean) :
    (readPair document fields followed pair state effort).value.Fine document good := by
  unfold readPair at clean ⊢
  split
  · refine ⟨fine.value, ?_⟩
    intro node same
    cases same
    exact .value held member
  · next notMerge =>
    rw [if_neg notMerge] at clean
    rcases Progress.clean_andThen clean with ⟨_, cleanNext, value⟩
    rw [value]
    cases read : (readText document followed effort pair.1).value with
    | none => exact fine
    | some name =>
      have sets : Sets document name pair.2 :=
        ⟨line, tag, pairs, pair.1, held, member, hasText_of_readText read⟩
      simp only [read] at cleanNext ⊢
      split
      · exact fine
      · next notTaken =>
        rw [if_neg notTaken] at cleanNext
        -- names that are unknown or set before leave the value alone
        split
        · exact ⟨fine.value, fine.merge⟩
        · next known =>
          rw [if_neg known] at cleanNext
          split
          · exact ⟨fine.value, fine.merge⟩
          · next first =>
            rw [if_neg first] at cleanNext
            have assigned := keep followed _ name pair.2 state.value sets fine.value
              (Progress.clean_map_iff.mp cleanNext)
            exact ⟨assigned, fine.merge⟩

theorem readPairs_fine (keep : fields.Keep document good) {followed : List Nat} {line : Nat}
    {tag : Bytes} {pairs : List (Node × Node)} (held : document.Holds (.mapping line tag pairs))
    {listed : List (Node × Node)} (members : ∀ pair ∈ listed, pair ∈ pairs)
    {state : PairsState α} {effort : Effort} (fine : state.Fine document good)
    (clean : (readPairs document fields followed listed state effort).Clean) :
    (readPairs document fields followed listed state effort).value.Fine document good := by
  induction listed generalizing state effort with
  | nil => exact fine
  | cons pair rest inductionHypothesis =>
    rcases Progress.clean_andThen clean with ⟨first, others, value⟩
    have next := readPair_fine keep held (members pair List.mem_cons_self) fine first
    have later := inductionHypothesis
      (fun other member => members other (List.mem_cons_of_mem pair member)) next others
    rw [readPairs, value]
    exact later

theorem holds_of_mem_mergeSources {merge source : Node} (held : document.Holds merge)
    (member : source ∈ (mergeSources document merge).1) : document.Holds source := by
  unfold mergeSources at member
  split at member
  · exact .item held (List.takeWhile_subset _ member)
  · split at member
    · rw [List.mem_singleton.mp member]
      exact held
    · exact absurd member List.not_mem_nil
  · split at member
    · rw [List.mem_singleton.mp member]
      exact held
    · exact absurd member List.not_mem_nil

/-- Reading a mapping of the document keeps the property. -/
def MappingKeeps (document : Document) (fields : Fields α) (good : α → Prop) (fuel : Nat) : Prop :=
  ∀ followed line tag pairs taken? value effort, document.Holds (.mapping line tag pairs) →
    good value → (readMapping document fields fuel followed pairs taken? value effort).Clean →
    good (readMapping document fields fuel followed pairs taken? value effort).value.1

/-- Merging mappings of the document keeps the property. -/
def MergedKeeps (document : Document) (fields : Fields α) (good : α → Prop) (fuel : Nat) : Prop :=
  ∀ followed sources taken value effort, (∀ source ∈ sources, document.Holds source) →
    good value → (readMerged document fields fuel followed sources taken value effort).Clean →
    good (readMerged document fields fuel followed sources taken value effort).value.1

theorem mappingKeeps_succ (keep : fields.Keep document good) {fuel : Nat}
    (merged : MergedKeeps document fields good fuel) :
    MappingKeeps document fields good (fuel + 1) := by
  intro followed line tag pairs taken? value effort held goodValue clean
  unfold readMapping at clean ⊢
  simp only at clean ⊢
  split
  · exact goodValue
  · next unique =>
    rw [if_neg unique] at clean
    rcases Progress.clean_andThen clean with ⟨cleanPairs, cleanNext, same⟩
    have start : ({ value := value, taken? := taken? } : PairsState α).Fine document good := by
      refine ⟨goodValue, ?_⟩
      intro node impossible
      cases impossible
    have fine := readPairs_fine keep held (fun _ member => member) start cleanPairs
    rw [same]
    cases merge : (readPairs document fields followed pairs
        { value := value, taken? := taken? } effort).value.merge? with
    | none => exact fine.value
    | some node =>
      simp only [merge] at cleanNext ⊢
      rcases Progress.clean_andThen cleanNext with ⟨_, cleanMerged, sameMerged⟩
      have sources : ∀ source ∈ (mergeSources document node).1, document.Holds source :=
        fun source member => holds_of_mem_mergeSources (fine.merge node merge) member
      have notAborted := (Bool.or_eq_false_iff.mp cleanMerged.aborted).1
      rw [sameMerged]
      exact merged followed _ _ _ _ sources fine.value ⟨cleanMerged.problems, notAborted⟩

theorem mergedKeeps_succ {fuel : Nat} (mapping : MappingKeeps document fields good fuel)
    (merged : MergedKeeps document fields good fuel) :
    MergedKeeps document fields good (fuel + 1) := by
  intro followed sources taken value effort held goodValue clean
  cases sources with
  | nil => exact goodValue
  | cons source rest =>
    have first := held source List.mem_cons_self
    unfold readMerged at clean ⊢
    split at clean
    · next nowFollowed counted line tag pairs follows =>
      rcases Progress.clean_andThen clean with ⟨cleanFirst, cleanRest, same⟩
      have isHeld := first.target (resolve?_of_follow? follows)
      have goodFirst := mapping nowFollowed line tag pairs (some taken) value counted isHeld
        goodValue cleanFirst
      rw [same]
      exact merged followed rest _ _ _
        (fun other member => held other (List.mem_cons_of_mem source member)) goodFirst cleanRest
    · cases clean.aborted

theorem mapping_and_merged_keep (keep : fields.Keep document good) (fuel : Nat) :
    MappingKeeps document fields good fuel ∧ MergedKeeps document fields good fuel := by
  -- a mapping asks for its merged mappings with less fuel, and they for theirs, so both properties
  -- are carried along together
  induction fuel with
  | zero =>
    constructor
    · intro followed line tag pairs taken? value effort _ goodValue _
      unfold readMapping
      exact goodValue
    · intro followed sources taken value effort _ goodValue _
      unfold readMerged
      exact goodValue
  | succ fuel inductionHypothesis =>
    rcases inductionHypothesis with ⟨mapping, merged⟩
    exact ⟨mappingKeeps_succ keep merged, mergedKeeps_succ mapping merged⟩

end

/-! ## Whole documents -/

/-- The list of ignored files, if it is set, has the elements of a sequence of the document. -/
def ListIsHeld (document : Document) (settings : Settings) : Prop :=
  ∀ elements, settings.ignoreFiles? = some elements →
    ∃ node, Sets document (utf8 "ignore_files") node ∧ AreElements document node elements

theorem configFields_keep (document : Document) (fuel : Nat) :
    (configFields document fuel).Keep document (ListIsHeld document) := by
  intro followed effort name node settings sets held clean elements listed
  unfold configFields at clean listed
  simp only at clean listed
  split at listed
  · next isList =>
    rw [if_pos isList] at clean
    cases read : (readIgnoreList document fuel followed effort node).value with
    | none =>
      simp only [Progress.map, read] at listed
      exact held elements listed
    | some found =>
      simp only [Progress.map, read, Option.some.injEq] at listed
      subst listed isList
      exact ⟨node, sets, areElements_of_readIgnoreList (Progress.clean_map_iff.mp clean) read⟩
  · next isText =>
    cases read : (readText document followed effort node).value with
    | none =>
      simp only [Progress.map, read] at listed
      exact held elements listed
    | some value =>
      simp only [Progress.map, read] at listed
      split at listed
      · exact held elements listed
      · exact held elements listed

theorem listIsHeld_of_ofDocument {fuel : Nat} (clean : (ofDocument fuel document).Clean) :
    ListIsHeld document (ofDocument fuel document).value := by
  have empty : ListIsHeld document {} := by
    intro elements impossible
    cases impossible
  have tells := sight_tells document [] { nodes := 1 } document.root
  unfold ofDocument at clean ⊢
  cases seen : sight document [] { nodes := 1 } document.root with
  | lost | null arrival | text arrival value => exact empty
  | collection arrival =>
    rw [seen] at tells clean
    rcases arrival with ⟨nowFollowed, counted, _ | _ | ⟨line, tag, pairs⟩ | _⟩
    · exact empty
    · exact empty
    · have held : document.Holds (.mapping line tag pairs) := .target .root tells
      exact (mapping_and_merged_keep (configFields_keep document fuel) fuel).1 nowFollowed line tag
        pairs none {} counted held empty (Progress.clean_map_iff.mp clean)
    · exact empty

end Settings

/-- A list that is decoded without an error is empty or that of a sequence in the document. -/
theorem Config.listIsHeld_of_decode {text : Bytes} {settings : Settings}
    {elements : List (Option Pattern)} (decoded : Config.decode text = (settings, none))
    (listed : settings.ignoreFiles? = some elements) :
    ∃ document, Yaml.readDocument text = some (some document) ∧
      ∃ node, Settings.Sets document (utf8 "ignore_files") node ∧
        Settings.AreElements document node elements := by
  unfold Config.decode at decoded
  cases read : Yaml.readDocument text with
  | none =>
    rw [read] at decoded
    cases decoded
  | some document? =>
    cases document? with
    | none =>
      rw [read] at decoded
      cases decoded
      cases listed
    | some document =>
      simp only [read] at decoded
      split at decoded
      · cases decoded
      · next notAborted =>
        split at decoded
        · next noProblems =>
          cases decoded
          have clean : (Settings.ofDocument ((text.length + 2) * (text.length + 2))
              document).Clean :=
            ⟨List.isEmpty_iff.mp noProblems, Bool.eq_false_iff.mpr notAborted⟩
          exact ⟨document, rfl, Settings.listIsHeld_of_ofDocument clean elements listed⟩
        · cases decoded

end PhpLint
