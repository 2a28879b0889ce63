import PhpLint.Proofs.IgnoreSet

namespace PhpLint
namespace Glob

/-!
# Slashes in globs

A glob without classes is matched term by term: a star stands for some bytes, a question
mark for one character, and everything else for itself. The matcher has more to do. It
tries a run at one start after another, takes the first one that works, and treats the last
run in a way of its own. Whatever it tries, a name that matches can be cut into parts for the
terms of the pattern, and no part for a star or a question mark has a slash. So the name has
exactly the slashes that the pattern has.

Nothing of the kind holds with classes, because a class may have the slash among its
characters.
-/

/-- A name for which a pattern without classes stands, term by term. A question mark stands for
a character or for a byte at which no encoding begins. -/
inductive Covers : Bytes → Bytes → Prop where
  | nil : Covers [] []
  | star {pattern skipped rest : Bytes} : Bytes.slash ∉ skipped → Covers pattern rest →
      Covers (Bytes.ascii '*' :: pattern) (skipped ++ rest)
  | character {pattern rest : Bytes} (c : Char) : c ≠ '/' → Covers pattern rest →
      Covers (Bytes.ascii '?' :: pattern) (String.utf8EncodeChar c ++ rest)
  | stray {pattern rest : Bytes} (b : UInt8) : b ≠ Bytes.slash →
      (∀ c, ¬ String.utf8EncodeChar c <+: b :: rest) → Covers pattern rest →
      Covers (Bytes.ascii '?' :: pattern) (b :: rest)
  | escaped {pattern rest : Bytes} (b : UInt8) : Covers pattern rest →
      Covers (Bytes.ascii '\\' :: b :: pattern) (b :: rest)
  | byte {pattern rest : Bytes} (b : UInt8) : b ∉ ['*', '?', '[', '\\'].map Bytes.ascii →
      Covers pattern rest → Covers (b :: pattern) (b :: rest)

/-- What a star and a question mark stand for adds no slash, and the other terms add their own. -/
theorem Covers.count_slash {pattern name : Bytes} (covers : Covers pattern name) :
    name.count Bytes.slash = pattern.count Bytes.slash := by
  have otherThanSlash {d : Char} (different : Bytes.ascii d ≠ Bytes.slash) (text : Bytes) :
      (Bytes.ascii d :: text).count Bytes.slash = text.count Bytes.slash :=
    List.count_cons_of_ne different
  induction covers with
  | nil => rfl
  | star noSlash _ inductionHypothesis =>
    rw [List.count_append, List.count_eq_zero_of_not_mem noSlash, Nat.zero_add,
      otherThanSlash (by decide), inductionHypothesis]
  | character c different _ inductionHypothesis =>
    have noSlash : Bytes.slash ∉ String.utf8EncodeChar c :=
      ascii_not_mem_utf8EncodeChar (by decide) different
    rw [List.count_append, List.count_eq_zero_of_not_mem noSlash, Nat.zero_add,
      otherThanSlash (by decide), inductionHypothesis]
  | stray b different _ _ inductionHypothesis =>
    rw [List.count_cons_of_ne different, otherThanSlash (by decide), inductionHypothesis]
  | escaped b _ inductionHypothesis =>
    rw [otherThanSlash (by decide), List.count_cons, List.count_cons, inductionHypothesis]
  | byte b _ _ inductionHypothesis =>
    rw [List.count_cons, List.count_cons, inductionHypothesis]

/-! ## Items and runs -/

theorem consume?_byte {b : UInt8} {name rest : Bytes} :
    (Item.byte b).consume? name = some rest ↔ name = b :: rest := by
  cases name with
  | nil => simp [Item.consume?]
  | cons first others =>
    simp only [Item.consume?, List.cons.injEq]
    split
    · next same => simp [same]
    · next different => simp [different]

/-- A question mark takes a character, or a byte if no encoding begins there. -/
theorem consume?_anyButSlash {name rest : Bytes}
    (consumed : Item.anyButSlash.consume? name = some rest) :
    (∃ c, c ≠ '/' ∧ name = String.utf8EncodeChar c ++ rest) ∨
      ∃ b, b ≠ Bytes.slash ∧ (∀ c, ¬ String.utf8EncodeChar c <+: b :: rest) ∧ name = b :: rest := by
  cases name with
  | nil => cases consumed
  | cons b others =>
    simp only [Item.consume?] at consumed
    split at consumed
    · cases consumed
    · next different =>
      cases read : Utf8.front? (b :: others) with
      | some found =>
        rcases found with ⟨c, width⟩
        rcases Utf8.of_front?_eq_some read with ⟨⟨later, whole⟩, rfl⟩
        rw [read, Option.elim_some, ← whole, List.drop_left] at consumed
        cases consumed
        refine Or.inl ⟨c, ?_, whole.symm⟩
        rintro rfl
        exact different (List.cons.inj whole).1.symm
      | none =>
        rw [read] at consumed
        cases consumed
        refine Or.inr ⟨b, different, ?_, rfl⟩
        intro c beginning
        have found := Utf8.front?_eq_some_iff.mpr ⟨beginning, rfl⟩
        cases read.symm.trans found

/-- Once a name has failed to match, it stays so. -/
theorem matchItems_none (fuel : Nat) (run rest : Bytes) :
    matchItems fuel run none ≠ some (some rest) := by
  induction fuel generalizing run with
  | zero => cases run <;> simp [matchItems]
  | succ fuel inductionHypothesis =>
    cases run with
    | nil => simp [matchItems]
    | cons b run =>
      simp only [matchItems, Option.bind_none]
      split
      · simp
      · exact inductionHypothesis _

/-- A run matches the front of a name if its first item does and its other items match what is
left. -/
theorem matchRun_eq_some_iff {run later name rest : Bytes} {item : Item}
    (read : item? run = some (item, later)) :
    matchRun run name = some (some rest) ↔
      ∃ middle, item.consume? name = some middle ∧ matchRun later middle = some (some rest) := by
  cases run with
  | nil => cases read
  | cons b run =>
    have shorter := length_lt_of_item? read
    rw [List.length_cons] at shorter
    simp only [matchRun, List.length_cons, matchItems, read, Option.bind_some]
    rw [matchItems_eq_of_le (Nat.lt_succ_iff.mp shorter) (Nat.le_refl later.length)]
    cases consumed : item.consume? name with
    | none => simp [matchItems_none]
    | some middle => simp

/-! ## Stars -/

theorem exists_append_of_mem_starRests {start name : Bytes} (listed : start ∈ starRests name) :
    ∃ skipped, Bytes.slash ∉ skipped ∧ name = skipped ++ start := by
  induction name with
  | nil => exact ⟨[], List.not_mem_nil, by rw [List.mem_singleton.mp listed]; rfl⟩
  | cons b others inductionHypothesis =>
    rcases List.mem_cons.mp listed with rfl | later
    · exact ⟨[], List.not_mem_nil, rfl⟩
    · split at later
      · cases later
      · next different =>
        rcases inductionHypothesis later with ⟨skipped, noSlash, whole⟩
        refine ⟨b :: skipped, ?_, by rw [whole, List.cons_append]⟩
        simp only [List.mem_cons, not_or]
        exact ⟨Ne.symm different, noSlash⟩

theorem exists_start_of_matchAtFirst {run rest : Bytes} {acceptable : Bytes → Bool}
    {starts : List Bytes} (found : matchAtFirst run acceptable starts = some (some rest)) :
    ∃ start ∈ starts, matchRun run start = some (some rest) := by
  induction starts with
  | nil => cases found
  | cons start starts inductionHypothesis =>
    simp only [matchAtFirst] at found
    split at found
    · cases found
    · next rest? matched =>
      split at found
      · next accepted isAccepted =>
        cases found
        rcases Option.filter_eq_some_iff.mp isAccepted with ⟨same, _⟩
        exact ⟨start, List.mem_cons_self, by rw [matched, same]⟩
      · rcases inductionHypothesis found with ⟨later, listed, matchedLater⟩
        exact ⟨later, List.mem_cons_of_mem start listed, matchedLater⟩

theorem refuse_ne_some_true (later : List Bytes) : refuse later ≠ some true := by
  unfold refuse
  split <;> simp

/-- The run behind a star is matched somewhere behind bytes without a slash. -/
theorem exists_start_of_matchStarred {run name : Bytes} {later : List Bytes}
    (matched : matchStarred (run :: later) name = some true) :
    ∃ skipped start rest, Bytes.slash ∉ skipped ∧ name = skipped ++ start ∧
      matchRun run start = some (some rest) ∧ matchStarred later rest = some true := by
  simp only [matchStarred] at matched
  split at matched
  · cases matched
  · exact absurd matched (refuse_ne_some_true later)
  · next rest found =>
    rcases exists_start_of_matchAtFirst found with ⟨start, listed, here⟩
    rcases exists_append_of_mem_starRests listed with ⟨skipped, noSlash, whole⟩
    exact ⟨skipped, start, rest, noSlash, whole, here, matched⟩

theorem isMatch?_eq_some_true_iff {pattern name : Bytes} :
    isMatch? pattern name = some true ↔
      ∃ rest, matchRun (runs false pattern).1 name = some (some rest) ∧
        matchStarred (runs false pattern).2 rest = some true := by
  simp only [isMatch?]
  split
  · next unread => simp [unread]
  · next failed => simp [failed, refuse_ne_some_true]
  · next rest found => simp [found]

/-! ## Patterns without classes -/

/-- What the matcher accepts is covered by the pattern. The induction goes through the terms of
the pattern: a star ends a run, and every other term is the first item of the run it stands in. -/
theorem covers_of_match {pattern : Bytes} (isGlob : IsGlob pattern)
    (noClass : Bytes.ascii '[' ∉ pattern) {name rest : Bytes}
    (front : matchRun (runs false pattern).1 name = some (some rest))
    (back : matchStarred (runs false pattern).2 rest = some true) : Covers pattern name := by
  induction isGlob generalizing name rest with
  | nil =>
    cases front
    have nothingLeft : name = [] := by simpa [runs, matchStarred] using back
    rw [nothingLeft]
    exact .nil
  | @cons term pattern isTerm _ inductionHypothesis =>
    simp only [List.mem_append, not_or] at noClass
    by_cases star : term = [Bytes.ascii '*']
    · subst star
      rw [List.singleton_append, runs_star] at front back
      cases front
      rcases exists_start_of_matchStarred back with
        ⟨skipped, start, middle, noSlash, rfl, here, later⟩
      exact .star noSlash (inductionHypothesis noClass.2 here later)
    · rw [runs_append_of_isTerm isTerm star] at front back
      cases isTerm with
      | star => exact absurd rfl star
      | bracket isClass => exact absurd List.mem_cons_self noClass.1
      | mark =>
        rcases (matchRun_eq_some_iff rfl).mp front with ⟨middle, consumed, here⟩
        have covers := inductionHypothesis noClass.2 here back
        rcases consume?_anyButSlash consumed with
          ⟨c, different, rfl⟩ | ⟨b, different, noEncoding, rfl⟩
        · exact .character c different covers
        · exact .stray b different noEncoding covers
      | escaped b =>
        rcases (matchRun_eq_some_iff rfl).mp front with ⟨middle, consumed, here⟩
        rw [consume?_byte.mp consumed]
        exact .escaped b (inductionHypothesis noClass.2 here back)
      | byte b unreserved =>
        rcases (matchRun_eq_some_iff (item?_of_unreserved unreserved _)).mp front with
          ⟨middle, consumed, here⟩
        rw [consume?_byte.mp consumed]
        exact .byte b unreserved (inductionHypothesis noClass.2 here back)

theorem covers_of_isMatch? {pattern name : Bytes} (noClass : Bytes.ascii '[' ∉ pattern)
    (matched : isMatch? pattern name = some true) : Covers pattern name := by
  have isGlob : IsGlob pattern := by
    apply Classical.byContradiction
    intro notGlob
    rw [isMatch?_eq_none_iff.mpr notGlob] at matched
    cases matched
  rcases isMatch?_eq_some_true_iff.mp matched with ⟨rest, front, back⟩
  exact covers_of_match isGlob noClass front back

end Glob

namespace Pattern

variable {pattern : Pattern}

theorem isMatch_glob_eq_ok_iff (format : pattern.format = utf8 "glob") {path : Bytes}
    {matched : Bool} :
    pattern.isMatch path = .ok matched ↔ Glob.isMatch? pattern.text path = some matched := by
  simp only [isMatch, format, ofName?_glob]
  cases Glob.isMatch? pattern.text path <;> simp

/-- A path that matches a glob without classes has exactly as many slashes as the glob. It can be
cut into parts for the terms of the glob, and what stands for a star or for a question mark has no
slash. -/
theorem globs_stay_in_directories (pattern prepared : Pattern) (path : Bytes)
    (format : pattern.format = utf8 "glob") (noClass : Bytes.ascii '[' ∉ pattern.text)
    (success : pattern.prepare = .ok prepared) (matched : prepared.isMatch path = .ok true) :
    path.count Bytes.slash = pattern.text.count Bytes.slash ∧ Glob.Covers pattern.text path := by
  have sameText : prepared.text = pattern.text := congrArg Prod.fst (spelling_eq_of_prepare success)
  have sameFormat : prepared.format = pattern.format :=
    congrArg Prod.snd (spelling_eq_of_prepare success)
  have found : Glob.isMatch? pattern.text path = some true := by
    rw [← sameText]
    exact (isMatch_glob_eq_ok_iff (sameFormat.trans format)).mp matched
  have covers := Glob.covers_of_isMatch? noClass found
  exact ⟨covers.count_slash, covers⟩

/-- A glob with all that may stand in one without classes. -/
def starredGlob : Pattern where
  text := utf8 "a*/?b**\\*"
  format := utf8 "glob"

theorem starredGlob_stays_in_directories :
    ∃ prepared, starredGlob.prepare = .ok prepared ∧
      prepared.isMatch (utf8 "abb/éb-b*") = .ok true ∧
      (utf8 "abb/éb-b*").count Bytes.slash = starredGlob.text.count Bytes.slash ∧
      Glob.Covers starredGlob.text (utf8 "abb/éb-b*") := by
  have isGlob : Glob.IsGlob starredGlob.text := Glob.isWellFormed_iff.mp (by decide +kernel)
  have success := prepare_of_isGlob (by decide) rfl isGlob
  have matched : starredGlob.isMatch (utf8 "abb/éb-b*") = .ok true := by
    decide +kernel
  rcases globs_stay_in_directories starredGlob _ _ rfl (by decide) success matched with
    ⟨sameCount, covers⟩
  exact ⟨_, success, matched, sameCount, covers⟩

end Pattern
end PhpLint
