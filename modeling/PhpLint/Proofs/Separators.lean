import PhpLint.Text.Blank
import PhpLint.Unicode.Category

namespace PhpLint
namespace Unicode

/-!
# The separators of Unicode

The characters of the category `Z` are those that the table of categories gives this letter.
A part of the table can be read on its own if it does not end with an entry of the category,
because such an entry reaches up to the next one. Most lines of the table do not even have the
letter, so it is enough to read the seven lines with separators.
-/

/-- The table puts a character into a category that begins with the letter. -/
def HasCategory (c letter : Char) : Prop :=
  ∃ run ∈ categoryRuns, run.first ≤ c.toNat ∧ c.toNat ≤ run.last ∧ [letter] <+: run.category

/-- The first code point of a run and its category, as a word of the table spells them. -/
def entryOfWord (word : List Char) : Nat × List Char :=
  (hexNumber (word.takeWhile isHexDigit), word.dropWhile isHexDigit)

/-- The entries of some lines of the table. -/
def entries (text : List String) : List (Nat × List Char) :=
  (tableWords text).map entryOfWord

/-- The ranges with categories that begin with the letter, if there are no other entries. -/
def rangesOf (letter : Char) (entries : List (Nat × List Char)) : Ranges :=
  ((closeRuns entries).filter fun run => [letter].isPrefixOf run.category).map
    fun run => (run.first, run.last)

theorem hasCategory_iff {c letter : Char} :
    HasCategory c letter ↔ (categoryRanges [letter].isPrefixOf).mem c.toNat = true := by
  simp only [HasCategory, Ranges.mem, categoryRanges, List.any_eq_true, List.mem_map,
    List.mem_filter, List.isPrefixOf_iff_prefix, Bool.and_eq_true, decide_eq_true_eq]
  constructor
  · rintro ⟨run, listed, first, last, category⟩
    exact ⟨_, ⟨run, ⟨listed, category⟩, rfl⟩, first, last⟩
  · rintro ⟨_, ⟨run, ⟨listed, category⟩, rfl⟩, first, last⟩
    exact ⟨run, listed, first, last, category⟩

/-! ## Parts of the table -/

section Parts

variable {letter : Char}

/-- Entries that do not end with the category can be read apart from those after them. -/
theorem rangesOf_append {front : List (Nat × List Char)}
    (otherLast : ∀ entry ∈ front.getLast?, ¬ [letter].isPrefixOf entry.2 = true)
    (back : List (Nat × List Char)) :
    rangesOf letter (front ++ back) = rangesOf letter front ++ rangesOf letter back := by
  induction front with
  | nil => rfl
  | cons entry rest inductionHypothesis =>
    cases rest with
    | nil =>
      have other := otherLast entry rfl
      cases back with
      | nil => exact (List.append_nil _).symm
      | cons next back =>
        simp only [rangesOf, List.singleton_append, closeRuns, List.filter_cons, if_neg other,
          List.filter_nil, List.map_nil, List.nil_append]
    | cons next rest =>
      have later := inductionHypothesis otherLast
      simp only [rangesOf, List.cons_append, closeRuns, List.filter_cons] at later ⊢
      split
      · rw [List.map_cons, List.map_cons, later, List.cons_append]
      · exact later

theorem rangesOf_eq_nil {entries : List (Nat × List Char)}
    (others : ∀ entry ∈ entries, ¬ [letter].isPrefixOf entry.2 = true) :
    rangesOf letter entries = [] := by
  induction entries with
  | nil => rfl
  | cons entry rest inductionHypothesis =>
    have other := others entry List.mem_cons_self
    have later := inductionHypothesis fun next member =>
      others next (List.mem_cons_of_mem entry member)
    cases rest with
    | nil => simp only [rangesOf, closeRuns, List.filter_cons, if_neg other, List.filter_nil,
        List.map_nil]
    | cons next rest =>
      simp only [rangesOf, closeRuns, List.filter_cons, if_neg other] at later ⊢
      exact later

theorem mem_of_mem_splitWord {separator c : Char} {word part : List Char}
    (isPart : part ∈ splitWord separator word) (member : c ∈ part) : c ∈ word := by
  induction word generalizing part with
  | nil =>
    rw [List.mem_singleton.mp isPart] at member
    exact member
  | cons d rest inductionHypothesis =>
    rw [splitWord] at isPart
    split at isPart
    · rcases List.mem_cons.mp isPart with rfl | later
      · cases member
      · exact List.mem_cons_of_mem d (inductionHypothesis later member)
    · split at isPart
      · rw [List.mem_singleton.mp isPart, List.mem_singleton] at member
        rw [member]
        exact List.mem_cons_self
      · next first others parts =>
        rcases List.mem_cons.mp isPart with rfl | later
        · rcases List.mem_cons.mp member with rfl | inFirst
          · exact List.mem_cons_self
          · exact List.mem_cons_of_mem d (inductionHypothesis (parts ▸ List.mem_cons_self) inFirst)
        · exact List.mem_cons_of_mem d
            (inductionHypothesis (parts ▸ List.mem_cons_of_mem _ later) member)

/-- The letter of a category stands in the line of its entry. -/
theorem not_prefix_of_not_mem {text : List String}
    (absent : ∀ line ∈ text, letter ∉ line.toList) :
    ∀ entry ∈ entries text, ¬ [letter].isPrefixOf entry.2 = true := by
  intro entry listed begins
  rcases List.mem_map.mp listed with ⟨word, inTable, rfl⟩
  rcases List.mem_flatMap.mp inTable with ⟨line, inText, isWord⟩
  have inCategory : letter ∈ word.dropWhile isHexDigit :=
    (List.isPrefixOf_iff_prefix.mp begins).subset List.mem_cons_self
  apply absent line inText
  apply mem_of_mem_splitWord isWord
  exact (List.dropWhile_suffix isHexDigit).subset inCategory

/-- The ranges of the category that some lines tell. -/
structure Reads (letter : Char) (text : List String) (ranges : Ranges) : Prop where
  rangesOf_eq : rangesOf letter (entries text) = ranges
  otherLast : ∀ entry ∈ (entries text).getLast?, ¬ [letter].isPrefixOf entry.2 = true

theorem Reads.append {first second : List String} {ranges others : Ranges}
    (readsFirst : Reads letter first ranges) (readsSecond : Reads letter second others) :
    Reads letter (first ++ second) (ranges ++ others) := by
  have split : entries (first ++ second) = entries first ++ entries second := by
    rw [entries, tableWords, List.flatMap_append, List.map_append]
    rfl
  constructor
  · rw [split, rangesOf_append readsFirst.otherLast, readsFirst.rangesOf_eq,
      readsSecond.rangesOf_eq]
  · intro entry isLast
    rw [split, List.getLast?_append] at isLast
    rcases Option.or_eq_some_iff.mp isLast with inSecond | ⟨_, inFirst⟩
    · exact readsSecond.otherLast entry inSecond
    · exact readsFirst.otherLast entry inFirst

theorem reads_of_not_mem {text : List String} (absent : ∀ line ∈ text, letter ∉ line.toList) :
    Reads letter text [] where
  rangesOf_eq := rangesOf_eq_nil (not_prefix_of_not_mem absent)
  otherLast entry isLast := not_prefix_of_not_mem absent entry (List.mem_of_getLast? isLast)

/-- Lines are read from their characters. -/
theorem reads_map_ofList (spelled : List (List Char)) {ranges : Ranges}
    (read : rangesOf letter ((spelled.flatMap (splitWord ' ')).map entryOfWord) = ranges)
    (otherLast : (((spelled.flatMap (splitWord ' ')).map entryOfWord).getLast?.all
      fun entry => ([letter].isPrefixOf entry.2).not) = true) :
    Reads letter (spelled.map String.ofList) ranges := by
  have words : entries (spelled.map String.ofList) =
      (spelled.flatMap (splitWord ' ')).map entryOfWord := by
    simp only [entries, tableWords, List.flatMap_map, String.toList_ofList]
  constructor
  · rw [words, read]
  · intro entry isLast
    rw [words] at isLast
    rw [isLast, Option.all_some, Bool.not_eq_true'] at otherLast
    exact Bool.eq_false_iff.mp otherLast

end Parts

/-! ## The lines with separators -/

def tableLines (start count : Nat) : List String :=
  (categoryRunText.drop start).take count

set_option maxRecDepth 10000 in
theorem separator_not_mem_tableLines :
    ∀ line ∈ tableLines 2 82 ++ (tableLines 85 40 ++ (tableLines 128 31 ++ tableLines 160 164)),
      'Z' ∉ line.toList := by
  simp only [tableLines, categoryRunText, List.drop, List.take, List.cons_append, List.nil_append]
  -- line by line, because a literal is a list of characters only up to a lemma
  repeat' first
    | exact fun _ impossible => absurd impossible List.not_mem_nil
    | refine List.forall_mem_cons.mpr ⟨?_, ?_⟩
    | (rw [String.toList_ofList]; decide +kernel)

def separatorRanges : Ranges :=
  [(0x20, 0x20), (0xA0, 0xA0), (0x1680, 0x1680), (0x2000, 0x200A), (0x2028, 0x2028),
    (0x2029, 0x2029), (0x202F, 0x202F), (0x205F, 0x205F), (0x3000, 0x3000)]

theorem reads_categoryRunText : Reads 'Z' categoryRunText separatorRanges := by
  have absent := separator_not_mem_tableLines
  simp only [List.forall_mem_append] at absent
  rcases absent with ⟨absentFirst, absentSecond, absentThird, absentLast⟩
  have ascii : Reads 'Z' (tableLines 0 2) [(0x20, 0x20), (0xA0, 0xA0)] :=
    reads_map_ofList [_, _] (by decide +kernel) (by decide +kernel)
  have ogham : Reads 'Z' (tableLines 84 1) [(0x1680, 0x1680)] :=
    reads_map_ofList [_] (by decide +kernel) (by decide +kernel)
  have general : Reads 'Z' (tableLines 125 3)
      [(0x2000, 0x200A), (0x2028, 0x2028), (0x2029, 0x2029), (0x202F, 0x202F),
        (0x205F, 0x205F)] :=
    reads_map_ofList [_, _, _] (by decide +kernel) (by decide +kernel)
  have ideographic : Reads 'Z' (tableLines 159 1) [(0x3000, 0x3000)] :=
    reads_map_ofList [_] (by decide +kernel) (by decide +kernel)
  exact ascii.append ((reads_of_not_mem absentFirst).append
    (ogham.append ((reads_of_not_mem absentSecond).append
      (general.append ((reads_of_not_mem absentThird).append
        (ideographic.append (reads_of_not_mem absentLast)))))))

theorem categoryRanges_separator : categoryRanges ['Z'].isPrefixOf = separatorRanges :=
  reads_categoryRunText.rangesOf_eq

/-- The separators of the table are those that may indent a function header. -/
theorem isSeparator_iff {c : Char} : isSeparator c = true ↔ HasCategory c 'Z' := by
  rw [hasCategory_iff, categoryRanges_separator]
  simp only [isSeparator, separatorRanges, Ranges.mem, List.any_cons, List.any_nil, Bool.or_false,
    Bool.or_eq_true, Bool.and_eq_true, decide_eq_true_eq, beq_iff_eq]
  omega

end Unicode
end PhpLint
