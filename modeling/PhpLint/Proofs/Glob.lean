import PhpLint.Glob

namespace PhpLint
namespace Glob

/-!
# Malformed globs

A malformed glob is noticed while it is matched with a name, and the matcher has
many ways to come to an end: a run may fail at once, at one of the starts that a
star leaves, or not at all. Whichever way it takes, every run of the pattern is
read. So it depends on the pattern alone whether there is an answer, and a glob
that has been tried with one name can be matched with every name.
-/

/-- Whether every run of a pattern is well-formed. -/
def isWellFormed (pattern : Bytes) : Bool :=
  isRun (runs false pattern).1 && (runs false pattern).2.all isRun

/-- Reading the items of a run goes on alike, whether or not the name has matched so far and
whatever is left of it. -/
theorem matchItems_isSome (fuel : Nat) (run : Bytes) (first second : Option Bytes) :
    (matchItems fuel run first).isSome = (matchItems fuel run second).isSome := by
  induction fuel generalizing run first second with
  | zero => cases run <;> rfl
  | succ fuel inductionHypothesis =>
    cases run with
    | nil => rfl
    | cons b run =>
      simp only [matchItems]
      cases item? (b :: run) with
      | none => rfl
      | some found => exact inductionHypothesis found.2 _ _

theorem matchRun_isSome (run name : Bytes) : (matchRun run name).isSome = isRun run :=
  matchItems_isSome run.length run (some name) (some [])

theorem starRests_ne_nil (name : Bytes) : starRests name ≠ [] := by
  cases name <;> simp only [starRests, ne_eq, reduceCtorEq, not_false_eq_true]

/-- A run that is tried at one start at least is read, also if it matches at none. -/
theorem matchAtFirst_isSome (run : Bytes) (acceptable : Bytes → Bool) (starts : List Bytes)
    (nonempty : starts ≠ []) : (matchAtFirst run acceptable starts).isSome = isRun run := by
  induction starts with
  | nil => exact absurd rfl nonempty
  | cons start starts inductionHypothesis =>
    have read := matchRun_isSome run start
    simp only [matchAtFirst]
    cases matched : matchRun run start with
    | none =>
      rw [matched] at read
      exact read
    | some rest? =>
      rw [matched] at read
      simp only
      cases rest?.filter acceptable with
      | some rest => exact read
      | none =>
        cases starts with
        | nil => exact read
        | cons next others => exact inductionHypothesis (by simp)

theorem refuse_isSome (later : List Bytes) : (refuse later).isSome = later.all isRun := by
  cases sound : later.all isRun <;> simp [refuse, sound]

/-- However far the runs match, all of them are read. -/
theorem matchStarred_isSome (later : List Bytes) (name : Bytes) :
    (matchStarred later name).isSome = later.all isRun := by
  induction later generalizing name with
  | nil => rfl
  | cons run later inductionHypothesis =>
    have read := matchAtFirst_isSome run (fun rest => rest.isEmpty || !later.isEmpty)
      (starRests name) (starRests_ne_nil name)
    simp only [matchStarred, List.all_cons]
    cases matched : matchAtFirst run (fun rest => rest.isEmpty || !later.isEmpty)
        (starRests name) with
    | none =>
      rw [matched] at read
      simp [← read]
    | some rest? =>
      rw [matched] at read
      rw [← read]
      cases rest? with
      | none => simpa using refuse_isSome later
      | some rest => simpa using inductionHypothesis rest

/-- Whether a pattern can be matched is decided by the pattern alone. -/
theorem isMatch?_isSome (pattern name : Bytes) :
    (isMatch? pattern name).isSome = isWellFormed pattern := by
  have read := matchRun_isSome (runs false pattern).1 name
  simp only [isMatch?, isWellFormed]
  cases matched : matchRun (runs false pattern).1 name with
  | none =>
    rw [matched] at read
    simp [← read]
  | some rest? =>
    rw [matched] at read
    rw [← read]
    cases rest? with
    | none => simpa using refuse_isSome (runs false pattern).2
    | some rest => simpa using matchStarred_isSome (runs false pattern).2 rest

/-- A pattern that could be matched with one name can be matched with every name. -/
theorem exists_isMatch?_of_tried {pattern tried : Bytes} {answer : Bool}
    (succeeded : isMatch? pattern tried = some answer) (name : Bytes) :
    ∃ matched, isMatch? pattern name = some matched := by
  apply Option.isSome_iff_exists.mp
  rw [isMatch?_isSome, ← isMatch?_isSome pattern tried, succeeded]
  rfl

end Glob
end PhpLint
