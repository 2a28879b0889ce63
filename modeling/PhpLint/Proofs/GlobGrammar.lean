import PhpLint.Pattern
import PhpLint.Proofs.Blank
import PhpLint.Proofs.Glob

namespace PhpLint
namespace Glob

/-!
# The grammar of globs

A glob is a sequence of terms: a star, a question mark, a class of characters in
brackets, a byte with a backslash before it, or any other byte. A class has at least one
range. What ends a range is an encoded character, and the characters that mean something
in brackets need a backslash.

The matcher does not follow this grammar. It first cuts the pattern at the stars, for which
it only keeps track of brackets that are open, and then reads the runs in between. Both
come to the same: the globs of the grammar are those that can be matched with a name, and
it does not matter with which. So a pattern that is tried with one short name when it is
prepared has been tried with every path.
-/

/-- One end of a range. -/
inductive IsEnd : Bytes → Prop where
  | plain (c : Char) (unreserved : c ∉ ['\\', '-', ']']) : IsEnd (String.utf8EncodeChar c)
  | escaped (c : Char) : IsEnd (Bytes.ascii '\\' :: String.utf8EncodeChar c)

inductive IsRange : Bytes → Prop where
  | single {text : Bytes} : IsEnd text → IsRange text
  | span {low high : Bytes} : IsEnd low → IsEnd high → IsRange (low ++ Bytes.ascii '-' :: high)

/-- One range or more. -/
inductive AreRanges : Bytes → Prop where
  | last {text : Bytes} : IsRange text → AreRanges text
  | cons {text rest : Bytes} : IsRange text → AreRanges rest → AreRanges (text ++ rest)

/-- What stands between brackets. A caret at the beginning always negates the class. -/
inductive IsClass : Bytes → Prop where
  | oneOf {text : Bytes} : AreRanges text → text.head? ≠ some (Bytes.ascii '^') → IsClass text
  | noneOf {text : Bytes} : AreRanges text → IsClass (Bytes.ascii '^' :: text)

inductive IsTerm : Bytes → Prop where
  | star : IsTerm [Bytes.ascii '*']
  | mark : IsTerm [Bytes.ascii '?']
  | bracket {text : Bytes} : IsClass text →
      IsTerm (Bytes.ascii '[' :: (text ++ [Bytes.ascii ']']))
  | escaped (b : UInt8) : IsTerm [Bytes.ascii '\\', b]
  | byte (b : UInt8) (unreserved : b ∉ ['*', '?', '[', '\\'].map Bytes.ascii) : IsTerm [b]

/-- The patterns of the grammar. -/
inductive IsGlob : Bytes → Prop where
  | nil : IsGlob []
  | cons {term rest : Bytes} : IsTerm term → IsGlob rest → IsGlob (term ++ rest)

/-! ## Ends of ranges -/

theorem toNat_ascii {d : Char} (low : d.toNat < 0x80) : (Bytes.ascii d).toNat = d.toNat := by
  rw [Bytes.ascii, UInt8.toNat_ofNat']
  omega

theorem ascii_not_mem_utf8EncodeChar {c d : Char} (low : d.toNat < 0x80) (different : c ≠ d) :
    Bytes.ascii d ∉ String.utf8EncodeChar c := by
  intro member
  have code := Utf8.forall_mem_utf8EncodeChar c _ member
  rw [toNat_ascii low] at code
  exact different (Char.toNat_inj.mp (code.resolve_left (Nat.not_le.mpr low)).symm)

/-- The bytes of a character without a backslash have no meaning in brackets. -/
theorem not_mem_of_unreserved {c : Char} (unreserved : c ∉ ['\\', '-', ']']) :
    Bytes.ascii '\\' ∉ String.utf8EncodeChar c ∧ Bytes.ascii '-' ∉ String.utf8EncodeChar c ∧
      Bytes.ascii ']' ∉ String.utf8EncodeChar c := by
  simp only [List.mem_cons, List.not_mem_nil, or_false, not_or] at unreserved
  exact ⟨ascii_not_mem_utf8EncodeChar (by decide) unreserved.1,
    ascii_not_mem_utf8EncodeChar (by decide) unreserved.2.1,
    ascii_not_mem_utf8EncodeChar (by decide) unreserved.2.2⟩

theorem front?_utf8EncodeChar_append (c : Char) (rest : Bytes) :
    Utf8.front? (String.utf8EncodeChar c ++ rest) =
      some (c, (String.utf8EncodeChar c).length) :=
  Utf8.front?_eq_some_iff.mpr ⟨List.prefix_append _ _, rfl⟩

/-- A range begins neither with a dash nor with a closing bracket. -/
theorem IsEnd.exists_cons {text : Bytes} (isEnd : IsEnd text) :
    ∃ b more, text = b :: more ∧ b ≠ Bytes.ascii '-' ∧ b ≠ Bytes.ascii ']' := by
  cases isEnd with
  | plain c unreserved =>
    rcases not_mem_of_unreserved unreserved with ⟨_, noDash, noBracket⟩
    rcases Utf8.utf8EncodeChar_eq_cons c with ⟨first, others, encoded, _, _⟩
    rw [encoded] at noDash noBracket ⊢
    exact ⟨first, others, rfl, fun same => noDash (same ▸ List.mem_cons_self),
      fun same => noBracket (same ▸ List.mem_cons_self)⟩
  | escaped c => exact ⟨_, _, rfl, by decide, by decide⟩

theorem exists_classChar?_of_isEnd {text : Bytes} (isEnd : IsEnd text) {rest : Bytes}
    (goesOn : rest ≠ []) : ∃ c, classChar? (text ++ rest) = some (c, rest) := by
  have notEmpty : rest.isEmpty = false := List.isEmpty_eq_false_iff.mpr goesOn
  have later (c : Char) :
      (String.utf8EncodeChar c ++ rest).drop (String.utf8EncodeChar c).length = rest :=
    List.drop_left
  cases isEnd with
  | plain c unreserved =>
    refine ⟨c, ?_⟩
    rcases not_mem_of_unreserved unreserved with ⟨noBackslash, noDash, noBracket⟩
    have read := front?_utf8EncodeChar_append c rest
    specialize later c
    rcases Utf8.utf8EncodeChar_eq_cons c with ⟨first, others, encoded, _, _⟩
    rw [encoded] at noBackslash noDash noBracket read later ⊢
    simp only [List.mem_cons, not_or] at noBackslash noDash noBracket
    rw [List.cons_append] at read later ⊢
    simp only [classChar?, Ne.symm noDash.1, Ne.symm noBracket.1, Ne.symm noBackslash.1, read,
      later, notEmpty, decide_false, Bool.or_self, Bool.false_eq_true, if_false]
  | escaped c =>
    refine ⟨c, ?_⟩
    have read := front?_utf8EncodeChar_append c rest
    have noDash : Bytes.ascii '\\' ≠ Bytes.ascii '-' := by decide
    have noBracket : Bytes.ascii '\\' ≠ Bytes.ascii ']' := by decide
    simp only [List.cons_append, classChar?, noDash, noBracket, read, later, notEmpty, decide_false,
      Bool.or_self, Bool.false_eq_true, if_false, if_true]

theorem isEnd_of_classChar? {text rest : Bytes} {c : Char}
    (found : classChar? text = some (c, rest)) :
    ∃ front, IsEnd front ∧ text = front ++ rest ∧ rest ≠ [] := by
  cases text with
  | nil => cases found
  | cons b more =>
    simp only [classChar?] at found
    split at found
    · cases found
    · next unreserved =>
      simp only [Bool.or_eq_true, decide_eq_true_eq, not_or] at unreserved
      generalize chosen : (if b = Bytes.ascii '\\' then more else b :: more) = text at found
      split at found
      · next d width read =>
        split at found
        · cases found
        · next goesOn =>
          cases found
          rcases Utf8.of_front?_eq_some read with ⟨⟨later, rfl⟩, rfl⟩
          rw [List.drop_left] at goesOn ⊢
          have nonempty : later ≠ [] := mt List.isEmpty_iff.mpr goesOn
          by_cases backslash : b = Bytes.ascii '\\'
          · rw [if_pos backslash] at chosen
            exact ⟨_, .escaped c, by rw [backslash, chosen, List.cons_append], nonempty⟩
          · rw [if_neg backslash] at chosen
            refine ⟨_, .plain c ?_, chosen, nonempty⟩
            -- a reserved character would be the first byte
            simp only [List.mem_cons, List.not_mem_nil, or_false, not_or]
            refine ⟨?_, ?_, ?_⟩
            · rintro rfl
              exact backslash (List.cons.inj chosen).1
            · rintro rfl
              exact unreserved.1 (List.cons.inj chosen).1
            · rintro rfl
              exact unreserved.2 (List.cons.inj chosen).1
      · cases found

/-! ## Ranges and classes -/

theorem IsRange.exists_cons {text : Bytes} (isRange : IsRange text) :
    ∃ b more, text = b :: more ∧ b ≠ Bytes.ascii '-' ∧ b ≠ Bytes.ascii ']' := by
  cases isRange with
  | single isEnd => exact isEnd.exists_cons
  | span isLow isHigh =>
    rcases isLow.exists_cons with ⟨b, more, rfl, noDash, noBracket⟩
    exact ⟨b, _, rfl, noDash, noBracket⟩

theorem AreRanges.exists_cons {text : Bytes} (areRanges : AreRanges text) :
    ∃ b more, text = b :: more ∧ b ≠ Bytes.ascii '-' ∧ b ≠ Bytes.ascii ']' := by
  cases areRanges with
  | last isRange => exact isRange.exists_cons
  | cons isRange areRanges =>
    rcases isRange.exists_cons with ⟨b, more, rfl, noDash, noBracket⟩
    exact ⟨b, _, rfl, noDash, noBracket⟩

/-- A range is read to its end if no dash follows. -/
theorem exists_range?_of_isRange {text : Bytes} (isRange : IsRange text) {b : UInt8}
    (noDash : b ≠ Bytes.ascii '-') (rest : Bytes) :
    ∃ range, range? (text ++ b :: rest) = some (range, b :: rest) := by
  cases isRange with
  | single isEnd =>
    rcases exists_classChar?_of_isEnd isEnd (List.cons_ne_nil b rest) with ⟨c, read⟩
    exact ⟨⟨c, c⟩, by simp only [range?, read, if_neg noDash]⟩
  | @span low high isLow isHigh =>
    rcases exists_classChar?_of_isEnd isHigh (List.cons_ne_nil b rest) with ⟨d, readHigh⟩
    rcases exists_classChar?_of_isEnd isLow (List.cons_ne_nil (Bytes.ascii '-') (high ++ b :: rest))
      with ⟨c, readLow⟩
    refine ⟨⟨c, d⟩, ?_⟩
    simp only [List.append_assoc, List.cons_append, range?, readLow, readHigh, if_true,
      Option.map_some]

theorem isRange_of_range? {text rest : Bytes} {range : Range}
    (found : range? text = some (range, rest)) :
    ∃ front, IsRange front ∧ text = front ++ rest := by
  simp only [range?] at found
  split at found
  · cases found
  · next low afterLow readLow =>
    rcases isEnd_of_classChar? readLow with ⟨front, isLow, rfl, _⟩
    split at found
    · cases found
    · next b afterDash =>
      split at found
      · next dash =>
        rcases Option.map_eq_some_iff.mp found with ⟨⟨high, afterHigh⟩, readHigh, same⟩
        cases same
        rcases isEnd_of_classChar? readHigh with ⟨back, isHigh, rfl, _⟩
        refine ⟨_, .span isLow isHigh, ?_⟩
        rw [dash, List.append_assoc, List.cons_append]
      · cases found
        exact ⟨front, .single isLow, rfl⟩

theorem exists_ranges?_of_areRanges {text : Bytes} (areRanges : AreRanges text) {fuel : Nat}
    (enough : text.length ≤ fuel) (after : Bytes) :
    ∃ ranges, ranges? fuel (text ++ Bytes.ascii ']' :: after) = some (ranges, after) := by
  induction areRanges generalizing fuel with
  | last isRange =>
    rcases isRange.exists_cons with ⟨b, more, rfl, _, _⟩
    rcases exists_range?_of_isRange isRange (by decide : Bytes.ascii ']' ≠ _) after with
      ⟨range, read⟩
    cases fuel with
    | zero => cases enough
    | succ fuel => exact ⟨[range], by simp only [ranges?, read, if_true]⟩
  | @cons text rest isRange areRanges inductionHypothesis =>
    rcases areRanges.exists_cons with ⟨b, more, rfl, noDash, noBracket⟩
    rcases exists_range?_of_isRange isRange noDash (more ++ Bytes.ascii ']' :: after) with
      ⟨range, read⟩
    rcases isRange.exists_cons with ⟨first, others, rfl, _, _⟩
    cases fuel with
    | zero => cases enough
    | succ fuel =>
      have shorter : (b :: more).length ≤ fuel := by
        simp only [List.length_append, List.length_cons] at enough ⊢
        omega
      rcases inductionHypothesis shorter with ⟨ranges, readLater⟩
      rw [List.cons_append] at readLater
      refine ⟨range :: ranges, ?_⟩
      simp only [List.append_assoc, List.cons_append] at read ⊢
      simp only [ranges?, read, if_neg noBracket, readLater, Option.map_some]

theorem areRanges_of_ranges? {fuel : Nat} {text after : Bytes} {ranges : List Range}
    (found : ranges? fuel text = some (ranges, after)) :
    ∃ front, AreRanges front ∧ text = front ++ Bytes.ascii ']' :: after := by
  induction fuel generalizing text ranges with
  | zero => cases found
  | succ fuel inductionHypothesis =>
    simp only [ranges?] at found
    split at found
    · cases found
    · next range rest read =>
      rcases isRange_of_range? read with ⟨front, isRange, rfl⟩
      split at found
      · cases found
      · next b afterBracket =>
        split at found
        · next bracket =>
          cases found
          exact ⟨front, .last isRange, by rw [bracket]⟩
        · rcases Option.map_eq_some_iff.mp found with ⟨⟨others, afterClass⟩, readLater, same⟩
          cases same
          rcases inductionHypothesis readLater with ⟨later, areRanges, split⟩
          exact ⟨front ++ later, .cons isRange areRanges, by rw [split, List.append_assoc]⟩

theorem exists_class?_of_isClass {text : Bytes} (isClass : IsClass text) (after : Bytes) :
    ∃ item, class? (text ++ Bytes.ascii ']' :: after) = some (item, after) := by
  have enough (front : Bytes) (extra : Nat) :
      front.length ≤ (front ++ Bytes.ascii ']' :: after).length + extra := by
    rw [List.length_append]
    omega
  cases isClass with
  | oneOf areRanges noCaret =>
    rcases exists_ranges?_of_areRanges areRanges (enough _ 0) after with ⟨ranges, read⟩
    rcases areRanges.exists_cons with ⟨b, more, rfl, _, _⟩
    have notNegated : (b == Bytes.ascii '^') = false :=
      beq_eq_false_iff_ne.mpr fun same => noCaret (congrArg some same)
    refine ⟨.oneOf false ranges, ?_⟩
    rw [List.cons_append, Nat.add_zero] at read
    simp only [List.cons_append, class?, notNegated, Bool.false_eq_true, if_false, read,
      Option.map_some]
  | noneOf areRanges =>
    rcases exists_ranges?_of_areRanges areRanges (enough _ 1) after with ⟨ranges, read⟩
    refine ⟨.oneOf true ranges, ?_⟩
    simp only [List.cons_append, class?, beq_self_eq_true, if_true, List.length_cons, read,
      Option.map_some]

theorem isClass_of_class? {text after : Bytes} {item : Item}
    (found : class? text = some (item, after)) :
    ∃ front, IsClass front ∧ text = front ++ Bytes.ascii ']' :: after := by
  cases text with
  | nil => cases found
  | cons b more =>
    rcases Option.map_eq_some_iff.mp found with ⟨⟨ranges, afterClass⟩, read, same⟩
    cases same
    rcases areRanges_of_ranges? read with ⟨front, areRanges, split⟩
    by_cases caret : b = Bytes.ascii '^'
    · rw [if_pos (beq_iff_eq.mpr caret)] at split
      exact ⟨_, .noneOf areRanges, by rw [split, caret, List.cons_append]⟩
    · rw [if_neg (mt beq_iff_eq.mp caret)] at split
      refine ⟨front, .oneOf areRanges ?_, split⟩
      rcases areRanges.exists_cons with ⟨first, others, rfl, _, _⟩
      rw [List.head?_cons, ← (List.cons.inj split).1]
      exact fun same => caret (Option.some.inj same)

/-! ## Items of a run -/

theorem not_mem_map_ascii_iff {b : UInt8} :
    b ∉ ['*', '?', '[', '\\'].map Bytes.ascii ↔
      b ≠ Bytes.ascii '*' ∧ b ≠ Bytes.ascii '?' ∧ b ≠ Bytes.ascii '[' ∧ b ≠ Bytes.ascii '\\' := by
  simp only [List.map_cons, List.map_nil, List.mem_cons, List.not_mem_nil, or_false, not_or, ne_eq]

theorem item?_of_unreserved {b : UInt8} (unreserved : b ∉ ['*', '?', '[', '\\'].map Bytes.ascii)
    (rest : Bytes) : item? (b :: rest) = some (.byte b, rest) := by
  rcases not_mem_map_ascii_iff.mp unreserved with ⟨_, noMark, noBracket, noBackslash⟩
  simp only [item?, if_neg noBracket, if_neg noMark, if_neg noBackslash]

theorem exists_item?_of_isTerm {term : Bytes} (isTerm : IsTerm term)
    (notStar : term ≠ [Bytes.ascii '*']) (rest : Bytes) :
    ∃ item, item? (term ++ rest) = some (item, rest) := by
  cases isTerm with
  | star => exact absurd rfl notStar
  | mark => exact ⟨_, rfl⟩
  | bracket isClass =>
    rcases exists_class?_of_isClass isClass rest with ⟨item, read⟩
    refine ⟨item, ?_⟩
    rw [List.cons_append, List.append_assoc, List.singleton_append]
    simp only [item?, if_true, read]
  | escaped b => exact ⟨_, rfl⟩
  | byte b unreserved => exact ⟨.byte b, item?_of_unreserved unreserved rest⟩

theorem isTerm_of_item? {b : UInt8} {text rest : Bytes} {item : Item}
    (found : item? (b :: text) = some (item, rest)) (notStar : b ≠ Bytes.ascii '*') :
    ∃ term, IsTerm term ∧ b :: text = term ++ rest := by
  simp only [item?] at found
  split at found
  · next bracket =>
    rcases isClass_of_class? found with ⟨front, isClass, rfl⟩
    refine ⟨_, .bracket isClass, ?_⟩
    rw [bracket, List.cons_append, List.append_assoc, List.singleton_append]
  · next noBracket =>
    split at found
    · next mark =>
      cases found
      exact ⟨_, .mark, by rw [mark, List.singleton_append]⟩
    · next noMark =>
      split at found
      · next backslash =>
        cases text with
        | nil => cases found
        | cons c afterEscape =>
          cases found
          exact ⟨_, .escaped c, by rw [backslash, List.cons_append, List.singleton_append]⟩
      · next noBackslash =>
        cases found
        have unreserved := not_mem_map_ascii_iff.mpr ⟨notStar, noMark, noBracket, noBackslash⟩
        exact ⟨_, .byte b unreserved, rfl⟩

theorem IsTerm.length_pos {term : Bytes} (isTerm : IsTerm term) : 0 < term.length := by
  cases isTerm <;> exact Nat.succ_pos _

theorem length_lt_of_item? {text rest : Bytes} {item : Item}
    (found : item? text = some (item, rest)) : rest.length < text.length := by
  cases text with
  | nil => cases found
  | cons b text =>
    by_cases star : b = Bytes.ascii '*'
    · rw [star] at found
      cases found
      exact Nat.lt_succ_self _
    · rcases isTerm_of_item? found star with ⟨term, isTerm, split⟩
      have positive := isTerm.length_pos
      rw [split, List.length_append]
      omega

/-- The fuel for the items of a run makes no difference as long as there is enough. -/
theorem matchItems_eq_of_le {fuel other : Nat} {run : Bytes} {rest? : Option Bytes}
    (enough : run.length ≤ fuel) (otherEnough : run.length ≤ other) :
    matchItems fuel run rest? = matchItems other run rest? := by
  induction fuel generalizing other run rest? with
  | zero =>
    rw [List.length_eq_zero_iff.mp (Nat.le_zero.mp enough)]
    cases other <;> rfl
  | succ fuel inductionHypothesis =>
    cases run with
    | nil => cases other <;> rfl
    | cons b run =>
      cases other with
      | zero => cases otherEnough
      | succ other =>
        simp only [matchItems]
        cases read : item? (b :: run) with
        | none => rfl
        | some found =>
          have shorter := length_lt_of_item? read
          rw [List.length_cons] at enough otherEnough shorter
          exact inductionHypothesis (by omega) (by omega)

/-- A run is well-formed if its first item can be read and the rest is well-formed. -/
theorem isRun_eq_of_item? {run rest : Bytes} {item : Item}
    (found : item? run = some (item, rest)) : isRun run = isRun rest := by
  cases run with
  | nil => cases found
  | cons b run =>
    have shorter := length_lt_of_item? found
    rw [List.length_cons] at shorter
    simp only [isRun, matchRun, List.length_cons, matchItems, found]
    rw [matchItems_isSome run.length rest _ (some []),
      matchItems_eq_of_le (Nat.lt_succ_iff.mp shorter) (Nat.le_refl _)]

theorem exists_item?_of_isRun {b : UInt8} {run : Bytes} (sound : isRun (b :: run) = true) :
    ∃ item rest, item? (b :: run) = some (item, rest) := by
  cases read : item? (b :: run) with
  | some found => exact ⟨found.1, found.2, rfl⟩
  | none =>
    simp only [isRun, matchRun, List.length_cons, matchItems, read] at sound
    cases sound

/-! ## Cutting at stars -/

theorem runs_escaped (bracket : Bool) (b : UInt8) (rest : Bytes) :
    runs bracket (Bytes.ascii '\\' :: b :: rest) =
      (Bytes.ascii '\\' :: b :: (runs bracket rest).1, (runs bracket rest).2) := by
  simp only [runs, if_true]

theorem runs_star (rest : Bytes) :
    runs false (Bytes.ascii '*' :: rest) = ([], (runs false rest).1 :: (runs false rest).2) := by
  have noBackslash : Bytes.ascii '*' ≠ Bytes.ascii '\\' := by decide
  conv_lhs => rw [runs.eq_def]
  simp only [if_neg noBackslash, decide_true, Bool.not_false, Bool.and_self, if_true]

theorem runs_cons {bracket : Bool} {b : UInt8} (noBackslash : b ≠ Bytes.ascii '\\')
    (noStar : b = Bytes.ascii '*' → bracket = true) (rest : Bytes) :
    let within : Bool := b = Bytes.ascii '[' || (bracket && b != Bytes.ascii ']')
    runs bracket (b :: rest) = (b :: (runs within rest).1, (runs within rest).2) := by
  intro within
  have goesOn : ¬ (decide (b = Bytes.ascii '*') && !bracket) = true := by
    intro star
    simp only [Bool.and_eq_true, decide_eq_true_eq, Bool.not_eq_true'] at star
    rw [noStar star.1] at star
    cases star.2
  conv_lhs => rw [runs.eq_def]
  simp only [if_neg noBackslash, if_neg goesOn]
  rfl

/-- A run is a part of the pattern from its beginning. -/
theorem fst_runs_isPrefix (bracket : Bool) (text : Bytes) : (runs bracket text).1 <+: text := by
  fun_induction runs bracket text with
  | case1 => exact List.prefix_refl []
  | case2 => exact List.prefix_refl _
  | case3 bracket escaped afterEscape first later cut inductionHypothesis =>
    rw [cut] at inductionHypothesis
    exact (List.prefix_cons_inj _).mpr ((List.prefix_cons_inj escaped).mpr inductionHypothesis)
  | case4 => exact List.nil_prefix
  | case5 bracket b rest _ _ within first later cut inductionHypothesis =>
    rw [cut] at inductionHypothesis
    exact (List.prefix_cons_inj b).mpr inductionHypothesis

/-- Between brackets the pattern is not cut. -/
def Uncut (text : Bytes) : Prop :=
  ∀ rest, runs true (text ++ rest) = (text ++ (runs true rest).1, (runs true rest).2)

theorem uncut_of_not_mem {text : Bytes} (noBackslash : Bytes.ascii '\\' ∉ text)
    (noBracket : Bytes.ascii ']' ∉ text) : Uncut text := by
  intro rest
  induction text with
  | nil => rfl
  | cons b more inductionHypothesis =>
    simp only [List.mem_cons, not_or] at noBackslash noBracket
    have within : (decide (b = Bytes.ascii '[') || (true && b != Bytes.ascii ']')) = true := by
      rw [Bool.true_and, bne_iff_ne.mpr (Ne.symm noBracket.1), Bool.or_true]
    rw [List.cons_append, runs_cons (Ne.symm noBackslash.1) fun _ => rfl, within,
      inductionHypothesis noBackslash.2 noBracket.2]
    rfl

theorem Uncut.append {first second : Bytes} (isFirst : Uncut first) (isSecond : Uncut second) :
    Uncut (first ++ second) := by
  intro rest
  rw [List.append_assoc, isFirst, isSecond, List.append_assoc]

theorem IsEnd.uncut {text : Bytes} (isEnd : IsEnd text) : Uncut text := by
  cases isEnd with
  | plain c unreserved =>
    rcases not_mem_of_unreserved unreserved with ⟨noBackslash, _, noBracket⟩
    exact uncut_of_not_mem noBackslash noBracket
  | escaped c =>
    -- the backslash takes the first byte, and the others are no ASCII characters
    rcases Utf8.utf8EncodeChar_continues c with ⟨first, others, encoded, _, continues⟩
    have high {d : Char} (low : d.toNat < 0x80) : Bytes.ascii d ∉ others := by
      intro member
      have range := continues _ member
      rw [Utf8.IsContinuation, toNat_ascii low] at range
      omega
    have othersUncut := uncut_of_not_mem (high (by decide)) (high (by decide))
    intro rest
    rw [encoded, List.cons_append, List.cons_append, runs_escaped, othersUncut]
    rfl

theorem uncut_dash : Uncut [Bytes.ascii '-'] :=
  uncut_of_not_mem (by decide) (by decide)

theorem IsRange.uncut {text : Bytes} (isRange : IsRange text) : Uncut text := by
  cases isRange with
  | single isEnd => exact isEnd.uncut
  | span isLow isHigh => exact isLow.uncut.append (uncut_dash.append isHigh.uncut)

theorem AreRanges.uncut {text : Bytes} (areRanges : AreRanges text) : Uncut text := by
  induction areRanges with
  | last isRange => exact isRange.uncut
  | cons isRange _ inductionHypothesis => exact isRange.uncut.append inductionHypothesis

theorem IsClass.uncut {text : Bytes} (isClass : IsClass text) : Uncut text := by
  cases isClass with
  | oneOf areRanges _ => exact areRanges.uncut
  | @noneOf text areRanges =>
    have caret : Uncut [Bytes.ascii '^'] := uncut_of_not_mem (by decide) (by decide)
    exact caret.append areRanges.uncut

/-- A class stays in one run, and behind it no bracket is open. -/
theorem runs_bracket {text : Bytes} (isClass : IsClass text) (rest : Bytes) :
    runs false (Bytes.ascii '[' :: (text ++ [Bytes.ascii ']']) ++ rest) =
      (Bytes.ascii '[' :: (text ++ [Bytes.ascii ']']) ++ (runs false rest).1,
        (runs false rest).2) := by
  have opens (more : Bytes) : runs false (Bytes.ascii '[' :: more) =
      (Bytes.ascii '[' :: (runs true more).1, (runs true more).2) :=
    runs_cons (by decide) (by decide) more
  have closes : runs true (Bytes.ascii ']' :: rest) =
      (Bytes.ascii ']' :: (runs false rest).1, (runs false rest).2) :=
    runs_cons (by decide) (by decide) rest
  rw [List.cons_append, List.append_assoc, List.singleton_append, opens, isClass.uncut, closes,
    List.cons_append, List.append_assoc, List.singleton_append]

/-- A term that is no star stays in the first run. -/
theorem runs_append_of_isTerm {term : Bytes} (isTerm : IsTerm term)
    (notStar : term ≠ [Bytes.ascii '*']) (rest : Bytes) :
    runs false (term ++ rest) = (term ++ (runs false rest).1, (runs false rest).2) := by
  cases isTerm with
  | star => exact absurd rfl notStar
  | mark => exact runs_cons (by decide) (by decide) rest
  | bracket isClass => exact runs_bracket isClass rest
  | escaped b => exact runs_escaped false b rest
  | byte b unreserved =>
    rcases not_mem_map_ascii_iff.mp unreserved with ⟨noStar, _, noBracket, noBackslash⟩
    have outside :
        (decide (b = Bytes.ascii '[') || (false && b != Bytes.ascii ']')) = false := by
      rw [decide_eq_false noBracket, Bool.false_and, Bool.or_self]
    rw [List.singleton_append, List.singleton_append,
      runs_cons noBackslash (fun isStar => absurd isStar noStar), outside]

/-! ## The grammar -/

/-- Every term can be taken away from the front of a pattern. -/
theorem isWellFormed_append {term : Bytes} (isTerm : IsTerm term) (rest : Bytes) :
    isWellFormed (term ++ rest) = isWellFormed rest := by
  by_cases star : term = [Bytes.ascii '*']
  · rw [star, List.singleton_append, isWellFormed, runs_star, List.all_cons]
    rfl
  · rcases exists_item?_of_isTerm isTerm star (runs false rest).1 with ⟨item, read⟩
    rw [isWellFormed, isWellFormed, runs_append_of_isTerm isTerm star, isRun_eq_of_item? read]

theorem isWellFormed_of_isGlob {pattern : Bytes} (isGlob : IsGlob pattern) :
    isWellFormed pattern = true := by
  induction isGlob with
  | nil => rfl
  | cons isTerm _ inductionHypothesis =>
    rw [isWellFormed_append isTerm]
    exact inductionHypothesis

/-- The first run of a pattern that does not begin with a star begins as the pattern does. -/
theorem exists_fst_runs_eq_cons {b : UInt8} (notStar : b ≠ Bytes.ascii '*') (rest : Bytes) :
    ∃ more, (runs false (b :: rest)).1 = b :: more := by
  by_cases backslash : b = Bytes.ascii '\\'
  · cases rest with
    | nil => exact ⟨[], by rw [backslash]; rfl⟩
    | cons escaped afterEscape =>
      rw [backslash, runs_escaped]
      exact ⟨_, rfl⟩
  · rw [runs_cons backslash fun isStar => absurd isStar notStar]
    exact ⟨_, rfl⟩

/-- A pattern whose runs are well-formed begins with a term. -/
theorem exists_isTerm_of_isWellFormed {b : UInt8} {rest : Bytes}
    (wellFormed : isWellFormed (b :: rest) = true) :
    ∃ term later, IsTerm term ∧ b :: rest = term ++ later := by
  by_cases star : b = Bytes.ascii '*'
  · exact ⟨_, rest, .star, by rw [star, List.singleton_append]⟩
  · rcases exists_fst_runs_eq_cons star rest with ⟨more, first⟩
    have sound : isRun (b :: more) = true := by
      rw [← first]
      exact (Bool.and_eq_true_iff.mp wellFormed).1
    rcases exists_item?_of_isRun sound with ⟨item, after, read⟩
    rcases isTerm_of_item? read star with ⟨term, isTerm, split⟩
    -- the run that was read is the beginning of the pattern
    rcases fst_runs_isPrefix false (b :: rest) with ⟨tail, whole⟩
    refine ⟨term, after ++ tail, isTerm, ?_⟩
    rw [← whole, first, split, List.append_assoc]

/-- The patterns of the grammar are those that the matcher reads without an error. -/
theorem isWellFormed_iff {pattern : Bytes} : isWellFormed pattern = true ↔ IsGlob pattern := by
  refine ⟨?_, isWellFormed_of_isGlob⟩
  intro wellFormed
  -- one term after another is taken away from the front
  induction size : pattern.length using Nat.strongRecOn generalizing pattern with
  | _ length inductionHypothesis =>
    cases pattern with
    | nil => exact .nil
    | cons b rest =>
      rcases exists_isTerm_of_isWellFormed wellFormed with ⟨term, later, isTerm, split⟩
      have shorter : later.length < length := by
        have positive := isTerm.length_pos
        rw [← size, split, List.length_append]
        omega
      rw [split] at wellFormed ⊢
      rw [isWellFormed_append isTerm] at wellFormed
      exact .cons isTerm (inductionHypothesis later.length shorter wellFormed rfl)

theorem isMatch?_eq_none_iff {pattern name : Bytes} :
    isMatch? pattern name = none ↔ ¬ IsGlob pattern := by
  rw [← isWellFormed_iff, ← isMatch?_isSome pattern name, Option.not_isSome_iff_eq_none]

theorem IsGlob.exists_isMatch? {pattern : Bytes} (isGlob : IsGlob pattern) (name : Bytes) :
    ∃ matched, isMatch? pattern name = some matched := by
  rw [← Option.isSome_iff_exists, isMatch?_isSome]
  exact isWellFormed_of_isGlob isGlob

end Glob

/-! ## Preparing globs -/

namespace Pattern

variable {pattern : Pattern}

theorem ofName?_glob : PatternFormat.ofName? (utf8 "glob") = some .glob := by
  decide

theorem prepare_of_isGlob (given : pattern.text ≠ []) (format : pattern.format = utf8 "glob")
    (isGlob : Glob.IsGlob pattern.text) :
    pattern.prepare = .ok { pattern with compiled? := none } := by
  rcases isGlob.exists_isMatch? globProbe with ⟨matched, tried⟩
  have formatGiven : (utf8 "glob").isEmpty = false := rfl
  simp only [prepare, format, ofName?_glob, List.isEmpty_eq_false_iff.mpr given, formatGiven, tried,
    Bool.false_eq_true, if_false]

theorem prepare_of_not_isGlob (given : pattern.text ≠ []) (format : pattern.format = utf8 "glob")
    (notGlob : ¬ Glob.IsGlob pattern.text) : pattern.prepare = .error .globMalformed := by
  have tried : Glob.isMatch? pattern.text globProbe = none := Glob.isMatch?_eq_none_iff.mpr notGlob
  have formatGiven : (utf8 "glob").isEmpty = false := rfl
  simp only [prepare, format, ofName?_glob, List.isEmpty_eq_false_iff.mpr given, formatGiven, tried,
    Bool.false_eq_true, if_false]

theorem isMatch_of_isGlob (format : pattern.format = utf8 "glob")
    (isGlob : Glob.IsGlob pattern.text) (path : Bytes) :
    ∃ matched, pattern.isMatch path = .ok matched := by
  rcases isGlob.exists_isMatch? path with ⟨matched, found⟩
  exact ⟨matched, by simp only [isMatch, format, ofName?_glob, found]⟩

theorem isMatch_of_not_isGlob (format : pattern.format = utf8 "glob")
    (notGlob : ¬ Glob.IsGlob pattern.text) (path : Bytes) :
    pattern.isMatch path = .error .globUnmatchable := by
  have unmatched : Glob.isMatch? pattern.text path = none := Glob.isMatch?_eq_none_iff.mpr notGlob
  simp only [isMatch, format, ofName?_glob, unmatched]

/-- A glob that is not empty is prepared exactly if it belongs to the grammar. Preparing it fails
exactly if matching it with some path fails for its form, and then it fails with every path. Once
it has been prepared, it can be matched with every path. -/
theorem preparing_validates_globs (pattern : Pattern) (given : pattern.text ≠ [])
    (format : pattern.format = utf8 "glob") :
    ((∃ error, pattern.prepare = .error error) ↔
      ∃ path, pattern.isMatch path = .error .globUnmatchable) ∧
    ((∃ error, pattern.prepare = .error error) →
      pattern.prepare = .error .globMalformed ∧
        ∀ path, pattern.isMatch path = .error .globUnmatchable) ∧
    (∀ prepared, pattern.prepare = .ok prepared →
      ∀ path, ∃ matched, prepared.isMatch path = .ok matched) ∧
    ((∃ prepared, pattern.prepare = .ok prepared) ↔ Glob.IsGlob pattern.text) := by
  by_cases isGlob : Glob.IsGlob pattern.text
  · have success := prepare_of_isGlob given format isGlob
    have noFailure : ¬ ∃ error, pattern.prepare = .error error := by
      rintro ⟨error, failure⟩
      rw [success] at failure
      cases failure
    refine ⟨⟨fun failed => absurd failed noFailure, ?_⟩, fun failed => absurd failed noFailure, ?_,
      fun _ => isGlob, fun _ => ⟨_, success⟩⟩
    · rintro ⟨path, failure⟩
      rcases isMatch_of_isGlob format isGlob path with ⟨matched, found⟩
      rw [found] at failure
      cases failure
    · intro prepared isPrepared path
      rw [success] at isPrepared
      cases isPrepared
      have sameFormat : ({ pattern with compiled? := none } : Pattern).format = utf8 "glob" :=
        format
      exact isMatch_of_isGlob sameFormat isGlob path
  · have failure := prepare_of_not_isGlob given format isGlob
    have unmatched := isMatch_of_not_isGlob format isGlob
    refine ⟨⟨fun _ => ⟨[], unmatched []⟩, fun _ => ⟨_, failure⟩⟩, fun _ => ⟨failure, unmatched⟩, ?_,
      ?_, fun isOne => absurd isOne isGlob⟩
    · intro prepared isPrepared
      rw [failure] at isPrepared
      cases isPrepared
    · rintro ⟨prepared, isPrepared⟩
      rw [failure] at isPrepared
      cases isPrepared

/-- A glob whose first run does not match the name that it is tried with, and whose last run has a
class that is never closed. -/
def unclosedClass : Pattern where
  text := utf8 "x*y[^b-d"
  format := utf8 "glob"

theorem preparing_unclosedClass :
    unclosedClass.prepare = .error .globMalformed ∧
      ∀ path, unclosedClass.isMatch path = .error .globUnmatchable := by
  rcases preparing_validates_globs unclosedClass (by decide) rfl with ⟨fails_iff, failure, _, _⟩
  have unmatched : unclosedClass.isMatch (utf8 "z") = .error .globUnmatchable := by
    decide +kernel
  exact failure (fails_iff.mpr ⟨utf8 "z", unmatched⟩)

end Pattern
end PhpLint
