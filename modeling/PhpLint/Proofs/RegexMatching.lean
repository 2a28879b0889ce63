import PhpLint.Regex.Expr

namespace PhpLint
namespace Regex

/-!
# What regular expressions match

A regular expression spans a part of a subject, from one position to another. The matcher
computes with sets of positions instead, and it stops repeating as soon as nothing new is
reached. It reaches exactly the positions up to which the expression spans a part of the subject
from one of the positions where it was started.
-/

/-! ## Sets of positions -/

/-- The position is in the set. -/
def Marked (set : List Bool) (position : Nat) : Prop :=
  set[position]? = some true

section Marked

variable {first second : List Bool} {position : Nat}

theorem Marked.lt_length (marked : Marked first position) : position < first.length := by
  rcases List.getElem?_eq_some_iff.mp marked with ⟨inside, _⟩
  exact inside

theorem marked_or_iff (size : first.length = second.length) :
    Marked (List.zipWith or first second) position ↔
      Marked first position ∨ Marked second position := by
  simp only [Marked, List.getElem?_zipWith_eq_some, Bool.or_eq_true]
  constructor
  · rintro ⟨_, _, inFirst, inSecond, rfl | rfl⟩
    · exact Or.inl inFirst
    · exact Or.inr inSecond
  · rintro (inFirst | inSecond)
    · have inside : position < second.length := size ▸ Marked.lt_length inFirst
      exact ⟨true, _, inFirst, List.getElem?_eq_getElem inside, Or.inl rfl⟩
    · have inside : position < first.length := size ▸ Marked.lt_length inSecond
      exact ⟨_, true, List.getElem?_eq_getElem inside, inSecond, Or.inr rfl⟩

theorem marked_and_iff :
    Marked (List.zipWith and first second) position ↔
      Marked first position ∧ Marked second position := by
  simp only [Marked, List.getElem?_zipWith_eq_some, Bool.and_eq_true]
  constructor
  · rintro ⟨_, _, inFirst, inSecond, rfl, rfl⟩
    exact ⟨inFirst, inSecond⟩
  · rintro ⟨inFirst, inSecond⟩
    exact ⟨true, true, inFirst, inSecond, rfl, rfl⟩

/-- What is in the first set and not in the second one. -/
theorem marked_and_not_iff (size : first.length = second.length) :
    Marked (List.zipWith (fun next old => next && !old) first second) position ↔
      Marked first position ∧ ¬ Marked second position := by
  simp only [Marked, List.getElem?_zipWith_eq_some, Bool.and_eq_true, Bool.not_eq_true']
  constructor
  · rintro ⟨_, _, inFirst, notInSecond, rfl, rfl⟩
    refine ⟨inFirst, ?_⟩
    rw [notInSecond]
    exact fun impossible => by cases impossible
  · rintro ⟨inFirst, notInSecond⟩
    have inside : position < second.length := size ▸ Marked.lt_length inFirst
    rw [List.getElem?_eq_getElem inside, Option.some.injEq, Bool.not_eq_true] at notInSecond
    exact ⟨true, _, inFirst, List.getElem?_eq_getElem inside, rfl, notInSecond⟩

theorem any_id_iff : first.any id = true ↔ ∃ position, Marked first position := by
  simp only [List.any_eq_true, id_eq, exists_eq_right, List.mem_iff_getElem?]
  rfl

theorem marked_replicate_iff {size : Nat} :
    Marked (List.replicate size true) position ↔ position < size := by
  rw [Marked, List.getElem?_replicate]
  split
  · next inside => simp only [inside]
  · next outside => simp only [outside, reduceCtorEq]

theorem count_false_or_le (first second : List Bool) :
    (List.zipWith or first second).count false ≤ first.count false := by
  induction first generalizing second with
  | nil => exact Nat.le_refl 0
  | cons here rest inductionHypothesis =>
    cases second with
    | nil => exact Nat.zero_le _
    | cons other others =>
      have later := inductionHypothesis others
      cases here <;> cases other <;> simp only [List.zipWith_cons_cons, List.count_cons] <;>
        simp <;> omega

/-- A set has fewer gaps if it is joined with one that has something new. -/
theorem count_false_or_lt (new : Marked second position) (size : first.length = second.length)
    (notOld : ¬ Marked first position) :
    (List.zipWith or first second).count false < first.count false := by
  induction first generalizing second position with
  | nil =>
    have inside := new.lt_length
    rw [← size] at inside
    cases inside
  | cons here rest inductionHypothesis =>
    cases second with
    | nil => cases new
    | cons other others =>
      cases position with
      | zero =>
        cases new
        have gap : here = false := by
          apply Bool.eq_false_iff.mpr
          rintro rfl
          exact notOld rfl
        have later := count_false_or_le rest others
        simp only [List.zipWith_cons_cons, List.count_cons, gap]
        simp
        omega
      | succ position =>
        have newLater : Marked others position := new
        have later := inductionHypothesis newLater (Nat.succ.inj size) notOld
        cases here <;> cases other <;> simp only [List.zipWith_cons_cons, List.count_cons] <;>
          simp <;> omega

end Marked

/-! ## Spans -/

/-- A relation applied the given number of times. -/
def Steps (Relates : Nat → Nat → Prop) : Nat → Nat → Nat → Prop
  | 0, start, stop => start = stop
  | count + 1, start, stop => ∃ middle, Relates start middle ∧ Steps Relates count middle stop

/-- The character before a position, where the given one comes before the subject. -/
def before? (first? : Option Char) (subject : List Char) : Nat → Option Char
  | 0 => first?
  | position + 1 => subject[position]?

/-- The expression matches the part of the subject between the positions. A repetition with an
upper bound that is less than the lower one is taken at its lower bound. -/
def Expr.Spans (subject : List Char) : Expr → Nat → Nat → Prop
  | .empty, start, stop => start = stop
  | .char cls, start, stop => stop = start + 1 ∧ ∃ c, subject[start]? = some c ∧ cls.mem c = true
  | .assertion condition, start, stop =>
    start = stop ∧ start ≤ subject.length ∧
      condition.holds (before? none subject start) subject[start]? = true
  | .seq first second, start, stop =>
    ∃ middle, Spans subject first start middle ∧ Spans subject second middle stop
  | .alt first second, start, stop =>
    Spans subject first start stop ∨ Spans subject second start stop
  | .repeated body least most, start, stop =>
    ∃ further, (∀ bound ∈ most, further ≤ bound - least) ∧
      Steps (Spans subject body) (least + further) start stop

theorem steps_add_iff {Relates : Nat → Nat → Prop} {first second start stop : Nat} :
    Steps Relates (first + second) start stop ↔
      ∃ middle, Steps Relates first start middle ∧ Steps Relates second middle stop := by
  induction first generalizing start with
  | zero => simp only [Nat.zero_add, Steps, exists_eq_left']
  | succ first inductionHypothesis =>
    rw [Nat.succ_add]
    simp only [Steps, inductionHypothesis]
    constructor
    · rintro ⟨next, here, middle, later, last⟩
      exact ⟨middle, ⟨next, here, later⟩, last⟩
    · rintro ⟨middle, ⟨next, here, later⟩, last⟩
      exact ⟨next, here, middle, later, last⟩

/-! ## Steps on sets of positions -/

/-- A step on sets of a size goes from every position to those that it is related to. -/
structure Realises (size : Nat) (step : List Bool → List Bool) (Relates : Nat → Nat → Prop) :
    Prop where
  length_eq : ∀ {starts : List Bool}, starts.length = size → (step starts).length = size
  marked_iff : ∀ {starts : List Bool}, starts.length = size → ∀ {stop : Nat},
    Marked (step starts) stop ↔ ∃ start, Marked starts start ∧ Relates start stop

namespace Realises

variable {size : Nat} {step other : List Bool → List Bool}
  {Relates RelatesToo : Nat → Nat → Prop} {starts reached latest : List Bool}
  {fuel start stop : Nat}

theorem seq (first : Realises size step Relates) (second : Realises size other RelatesToo) :
    Realises size (fun starts => other (step starts))
      (fun start stop => ∃ middle, Relates start middle ∧ RelatesToo middle stop) where
  length_eq isSize := second.length_eq (first.length_eq isSize)
  marked_iff isSize := by
    intro stop
    simp only [second.marked_iff (first.length_eq isSize), first.marked_iff isSize]
    constructor
    · rintro ⟨middle, ⟨start, isStart, here⟩, later⟩
      exact ⟨start, isStart, middle, here, later⟩
    · rintro ⟨start, isStart, middle, here, later⟩
      exact ⟨middle, ⟨start, isStart, here⟩, later⟩

theorem alt (first : Realises size step Relates) (second : Realises size other RelatesToo) :
    Realises size (fun starts => List.zipWith or (step starts) (other starts))
      (fun start stop => Relates start stop ∨ RelatesToo start stop) where
  length_eq isSize := by
    rw [List.length_zipWith, first.length_eq isSize, second.length_eq isSize, Nat.min_self]
  marked_iff isSize := by
    intro stop
    have sameSize := (first.length_eq isSize).trans (second.length_eq isSize).symm
    simp only [marked_or_iff sameSize, first.marked_iff isSize, second.marked_iff isSize,
      and_or_left, exists_or]

theorem times (realises : Realises size step Relates) (count : Nat) :
    Realises size (Regex.times step count) (Steps Relates count) := by
  induction count with
  | zero =>
    refine ⟨fun isSize => isSize, fun _ => ⟨fun marked => ⟨_, marked, rfl⟩, ?_⟩⟩
    rintro ⟨_, marked, rfl⟩
    exact marked
  | succ count inductionHypothesis => exact realises.seq inductionHypothesis

/-- The positions that a round of a closure adds. -/
def fresh (step : List Bool → List Bool) (reached latest : List Bool) : List Bool :=
  List.zipWith (fun next old => next && !old) (step latest) reached

theorem closure_succ (step : List Bool → List Bool) (fuel : Nat) (reached latest : List Bool) :
    closure step (fuel + 1) reached latest =
      if (fresh step reached latest).any id then
        closure step fuel (List.zipWith or reached (fresh step reached latest))
          (fresh step reached latest)
      else reached :=
  rfl

section Closure

variable (realises : Realises size step Relates) (isReached : reached.length = size)
  (isLatest : latest.length = size)

include realises isReached isLatest

theorem length_fresh : (fresh step reached latest).length = size := by
  rw [fresh, List.length_zipWith, realises.length_eq isLatest, isReached, Nat.min_self]

theorem length_join : (List.zipWith or reached (fresh step reached latest)).length = size := by
  rw [List.length_zipWith, isReached, realises.length_fresh isReached isLatest, Nat.min_self]

theorem marked_fresh_iff : Marked (fresh step reached latest) stop ↔
    (∃ start, Marked latest start ∧ Relates start stop) ∧ ¬ Marked reached stop := by
  rw [fresh, marked_and_not_iff ((realises.length_eq isLatest).trans isReached.symm),
    realises.marked_iff isLatest]

theorem marked_join_iff : Marked (List.zipWith or reached (fresh step reached latest)) stop ↔
    Marked reached stop ∨ Marked (fresh step reached latest) stop :=
  marked_or_iff (isReached.trans (realises.length_fresh isReached isLatest).symm)

theorem length_closure (fuel : Nat) : (closure step fuel reached latest).length = size := by
  induction fuel generalizing reached latest with
  | zero => exact isReached
  | succ fuel inductionHypothesis =>
    rw [closure_succ]
    split
    · exact inductionHypothesis (realises.length_join isReached isLatest)
        (realises.length_fresh isReached isLatest)
    · exact isReached

/-- What a closure adds is reached in no more steps than it may take. -/
theorem exists_steps_of_closure (found : Marked (closure step fuel reached latest) stop) :
    Marked reached stop ∨
      ∃ count ≤ fuel, ∃ start, Marked latest start ∧ Steps Relates count start stop := by
  induction fuel generalizing reached latest with
  | zero => exact Or.inl found
  | succ fuel inductionHypothesis =>
    rw [closure_succ] at found
    split at found
    · rcases inductionHypothesis (realises.length_join isReached isLatest)
        (realises.length_fresh isReached isLatest) found with
        joined | ⟨count, few, middle, isFresh, later⟩
      · rcases (realises.marked_join_iff isReached isLatest).mp joined with old | isFresh
        · exact Or.inl old
        · rcases ((realises.marked_fresh_iff isReached isLatest).mp isFresh).1 with
            ⟨start, isStart, here⟩
          exact Or.inr ⟨1, Nat.succ_le_succ (Nat.zero_le _), start, isStart, stop, here, rfl⟩
      · rcases ((realises.marked_fresh_iff isReached isLatest).mp isFresh).1 with
          ⟨start, isStart, here⟩
        exact Or.inr ⟨count + 1, Nat.succ_le_succ few, start, isStart, middle, here, later⟩
    · exact Or.inl found

/-- A path from what has been reached stays there or goes on from a fresh position, if one step
from there leads no further than one step from the latest positions. -/
theorem marked_or_exists_fresh
    (frontier : ∀ i j, Marked reached i → Relates i j →
      Marked reached j ∨ ∃ k, Marked latest k ∧ Relates k j)
    {count : Nat} (isStart : Marked reached start) (steps : Steps Relates count start stop) :
    Marked reached stop ∨ ∃ fewer < count, ∃ middle,
      Marked (fresh step reached latest) middle ∧ Steps Relates fewer middle stop := by
  induction count generalizing start with
  | zero => exact Or.inl (steps ▸ isStart)
  | succ count inductionHypothesis =>
    rcases steps with ⟨next, here, later⟩
    by_cases old : Marked reached next
    · rcases inductionHypothesis old later with isStop | ⟨fewer, few, middle, isFresh, last⟩
      · exact Or.inl isStop
      · exact Or.inr ⟨fewer, Nat.lt_succ_of_lt few, middle, isFresh, last⟩
    · have oneStep := (frontier start next isStart here).resolve_left old
      exact Or.inr ⟨count, Nat.lt_succ_self count, next,
        (realises.marked_fresh_iff isReached isLatest).mpr ⟨oneStep, old⟩, later⟩

/-- A closure finds what is reached in as many steps as it may take, and everything if it may take
as many steps as there are gaps, because every round fills one. -/
theorem marked_closure_of_steps
    (frontier : ∀ i j, Marked reached i → Relates i j →
      Marked reached j ∨ ∃ k, Marked latest k ∧ Relates k j)
    {count : Nat} (isStart : Marked reached start) (steps : Steps Relates count start stop)
    (enough : count ≤ fuel ∨ reached.count false ≤ fuel) :
    Marked (closure step fuel reached latest) stop := by
  induction fuel generalizing reached latest start count with
  | zero =>
    -- without a step nothing moves, and without a gap there is nowhere else to go
    rcases enough with noStep | noGap
    · rw [Nat.le_zero.mp noStep] at steps
      exact steps ▸ isStart
    · have inside : stop < reached.length := by
        have isStop := ((realises.times count).marked_iff isReached).mpr ⟨start, isStart, steps⟩
        rw [isReached, ← (realises.times count).length_eq isReached]
        exact isStop.lt_length
      have noFalse : false ∉ reached := List.count_eq_zero.mp (Nat.le_zero.mp noGap)
      rw [closure, Marked, List.getElem?_eq_getElem inside, Option.some.injEq, ← Bool.not_eq_false]
      intro gap
      exact noFalse (gap ▸ List.getElem_mem inside)
  | succ fuel inductionHypothesis =>
    have isFresh := realises.length_fresh isReached isLatest
    have isJoin := realises.length_join isReached isLatest
    have joins {position : Nat} :
        Marked (List.zipWith or reached (fresh step reached latest)) position ↔
          Marked reached position ∨ Marked (fresh step reached latest) position :=
      realises.marked_join_iff isReached isLatest
    rw [closure_succ]
    split
    · have newFrontier : ∀ i j, Marked (List.zipWith or reached (fresh step reached latest)) i →
          Relates i j → Marked (List.zipWith or reached (fresh step reached latest)) j ∨
            ∃ k, Marked (fresh step reached latest) k ∧ Relates k j := by
        intro i j joined related
        rcases joins.mp joined with old | isNew
        · by_cases again : Marked reached j
          · exact Or.inl (joins.mpr (Or.inl again))
          · have oneStep := (frontier i j old related).resolve_left again
            exact Or.inl (joins.mpr (Or.inr
              ((realises.marked_fresh_iff isReached isLatest).mpr ⟨oneStep, again⟩)))
        · exact Or.inr ⟨i, isNew, related⟩
      rcases realises.marked_or_exists_fresh isReached isLatest frontier isStart steps with
        old | ⟨fewer, few, middle, isNew, later⟩
      · have here : Steps Relates 0 stop stop := rfl
        exact inductionHypothesis isJoin isFresh newFrontier (joins.mpr (Or.inl old)) here
          (Or.inl (Nat.zero_le fuel))
      · -- the rest of the path is shorter, and a gap has been filled
        refine inductionHypothesis isJoin isFresh newFrontier (joins.mpr (Or.inr isNew)) later ?_
        rcases enough with most | gaps
        · exact Or.inl (by omega)
        · have fewerGaps := count_false_or_lt isNew (isReached.trans isFresh.symm)
            ((realises.marked_fresh_iff isReached isLatest).mp isNew).2
          exact Or.inr (by omega)
    · next nothingNew =>
      rcases realises.marked_or_exists_fresh isReached isLatest frontier isStart steps with
        old | ⟨_, _, middle, isNew, _⟩
      · exact old
      · exact absurd (any_id_iff.mpr ⟨middle, isNew⟩) nothingNew

end Closure

/-- A repetition. -/
theorem repeated (realises : Realises size step Relates) (least : Nat) (most : Option Nat) :
    Realises size
      (fun starts => closure step ((most.map fun bound => bound - least).getD size)
        (Regex.times step least starts) (Regex.times step least starts))
      (fun start stop => ∃ further, (∀ bound ∈ most, further ≤ bound - least) ∧
        Steps Relates (least + further) start stop) := by
  have required := realises.times least
  refine ⟨fun {starts} isSize => ?_, fun {starts} isSize {stop} => ?_⟩
  · exact realises.length_closure (required.length_eq isSize) (required.length_eq isSize) _
  · have isRequired := required.length_eq isSize
    constructor
    · intro found
      rcases realises.exists_steps_of_closure isRequired isRequired found with
        here | ⟨further, few, middle, isMiddle, later⟩
      · rcases (required.marked_iff isSize).mp here with ⟨start, isStart, steps⟩
        exact ⟨start, isStart, 0, fun bound _ => Nat.zero_le _, steps⟩
      · rcases (required.marked_iff isSize).mp isMiddle with ⟨start, isStart, steps⟩
        refine ⟨start, isStart, further, ?_, steps_add_iff.mpr ⟨middle, steps, later⟩⟩
        intro bound isBound
        rw [isBound] at few
        exact few
    · rintro ⟨start, isStart, further, bounded, steps⟩
      rcases steps_add_iff.mp steps with ⟨middle, first, later⟩
      have isMiddle := (required.marked_iff isSize).mpr ⟨start, isStart, first⟩
      refine realises.marked_closure_of_steps isRequired isRequired ?_ isMiddle later ?_
      · exact fun i j isReached related => Or.inr ⟨i, isReached, related⟩
      · cases most with
        | none => exact Or.inr (Nat.le_trans List.count_le_length (Nat.le_of_eq isRequired))
        | some bound => exact Or.inl (bounded bound rfl)

end Realises

/-! ## The matcher -/

variable (subject : List Char)

theorem realises_char (cls : CharClass) :
    Realises (subject.length + 1) (Expr.ends subject (.char cls))
      (Expr.Spans subject (.char cls)) where
  length_eq isSize := by
    rw [Expr.ends, List.length_cons, List.length_zipWith, isSize,
      Nat.min_eq_right (Nat.le_succ subject.length)]
  marked_iff _ := by
    intro stop
    cases stop with
    | zero => simp [Marked, Expr.ends, Expr.Spans]
    | succ stop =>
      simp only [Marked, Expr.ends, Expr.Spans, List.getElem?_cons_succ,
        List.getElem?_zipWith_eq_some, Bool.and_eq_true, Nat.add_right_cancel_iff]
      constructor
      · rintro ⟨_, c, isStart, here, rfl, member⟩
        exact ⟨stop, isStart, rfl, c, here, member⟩
      · rintro ⟨_, isStart, rfl, c, here, member⟩
        exact ⟨true, c, isStart, here, rfl, member⟩

theorem length_positions (condition : Assertion) (first? : Option Char) :
    (condition.positions first? subject).length = subject.length + 1 := by
  induction subject generalizing first? with
  | nil => rfl
  | cons c rest inductionHypothesis =>
    rw [Assertion.positions, List.length_cons, inductionHypothesis, List.length_cons]

theorem marked_positions_iff (condition : Assertion) (first? : Option Char) (position : Nat) :
    Marked (condition.positions first? subject) position ↔
      position ≤ subject.length ∧
        condition.holds (before? first? subject position) subject[position]? = true := by
  induction subject generalizing first? position with
  | nil =>
    cases position with
    | zero => simp [Marked, Assertion.positions, before?]
    | succ position => simp [Marked, Assertion.positions]
  | cons c rest inductionHypothesis =>
    cases position with
    | zero => simp [Marked, Assertion.positions, before?]
    | succ position =>
      have sameBefore : before? (some c) rest position = (c :: rest)[position]? := by
        cases position with
        | zero => rfl
        | succ position => rfl
      have later := inductionHypothesis (some c) position
      rw [sameBefore] at later
      rw [List.length_cons, Nat.add_le_add_iff_right, before?, List.getElem?_cons_succ, ← later]
      rfl

theorem realises_assertion (condition : Assertion) :
    Realises (subject.length + 1) (Expr.ends subject (.assertion condition))
      (Expr.Spans subject (.assertion condition)) where
  length_eq isSize := by
    rw [Expr.ends, List.length_zipWith, isSize, length_positions, Nat.min_self]
  marked_iff _ := by
    intro stop
    simp only [Expr.ends, Expr.Spans, marked_and_iff, marked_positions_iff]
    constructor
    · rintro ⟨isStart, inside, holds⟩
      exact ⟨stop, isStart, rfl, inside, holds⟩
    · rintro ⟨_, isStart, rfl, inside, holds⟩
      exact ⟨isStart, inside, holds⟩

/-- The matcher goes from every position to the ends of what the expression spans from there. -/
theorem realises_ends (expr : Expr) :
    Realises (subject.length + 1) (Expr.ends subject expr) (Expr.Spans subject expr) := by
  induction expr with
  | empty =>
    refine ⟨fun isSize => isSize, fun _ => ⟨fun marked => ⟨_, marked, rfl⟩, ?_⟩⟩
    rintro ⟨_, marked, rfl⟩
    exact marked
  | char cls => exact realises_char subject cls
  | assertion condition => exact realises_assertion subject condition
  | seq first second realisesFirst realisesSecond => exact realisesFirst.seq realisesSecond
  | alt first second realisesFirst realisesSecond => exact realisesFirst.alt realisesSecond
  | repeated body least most realisesBody => exact realisesBody.repeated least most

/-- An expression is found in a subject exactly if it spans a part of it. -/
theorem foundIn_iff (expr : Expr) :
    expr.foundIn subject = true ↔
      ∃ start stop, start ≤ subject.length ∧ Expr.Spans subject expr start stop := by
  rw [Expr.foundIn, any_id_iff]
  simp only [(realises_ends subject expr).marked_iff List.length_replicate, marked_replicate_iff,
    Nat.lt_succ_iff]
  exact exists_comm

end Regex
end PhpLint
