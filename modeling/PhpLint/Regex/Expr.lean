import PhpLint.Regex.CharClass

namespace PhpLint
namespace Regex

/-!
# Regular expressions and what they match

The meaning of an expression is a step on sets of positions of a subject: from
the positions where a match may start to the positions where it may end. A set of
positions is a list of truth values, one before each character of the subject and
one at its end. An expression is found in a subject if, started at every
position, it ends somewhere.
-/

/-- Conditions on a position that consume no character. -/
inductive Assertion where
  | textStart
  | textEnd
  | lineStart
  | lineEnd
  | wordBoundary
  | noWordBoundary
deriving DecidableEq

inductive Expr where
  | empty
  | char (cls : CharClass)
  | assertion (condition : Assertion)
  | seq (first second : Expr)
  | alt (first second : Expr)
  | repeated (body : Expr) (least : Nat) (most : Option Nat)

namespace Assertion

def isWord (c? : Option Char) : Bool :=
  match c? with
  | none => false
  | some c => wordRanges.any fun (first, last) => first ≤ c.toNat && c.toNat ≤ last

/-- Whether the condition holds between the given neighbours. -/
def holds (condition : Assertion) (previous? next? : Option Char) : Bool :=
  match condition with
  | .textStart => previous?.isNone
  | .textEnd => next?.isNone
  | .lineStart => previous?.isNone || previous? == some '\n'
  | .lineEnd => next?.isNone || next? == some '\n'
  | .wordBoundary => isWord previous? != isWord next?
  | .noWordBoundary => isWord previous? == isWord next?

/-- The positions of a subject where the condition holds. -/
def positions (condition : Assertion) : Option Char → List Char → List Bool
  | previous?, [] => [condition.holds previous? none]
  | previous?, c :: rest =>
    condition.holds previous? (some c) :: positions condition (some c) rest

end Assertion

/-- Adds to the reached positions what further steps reach, as long as a step reaches
something new and the fuel lasts. -/
def closure (step : List Bool → List Bool) : Nat → List Bool → List Bool → List Bool
  | 0, reached, _ => reached
  | fuel + 1, reached, latest =>
    let fresh := List.zipWith (fun next old => next && !old) (step latest) reached
    if fresh.any id then
      closure step fuel (List.zipWith or reached fresh) fresh
    else
      reached

/-- Takes a step the given number of times. -/
def times (step : List Bool → List Bool) : Nat → List Bool → List Bool
  | 0, starts => starts
  | count + 1, starts => times step count (step starts)

namespace Expr

/-- The positions where a match may end that starts at one of the given positions. -/
def ends (subject : List Char) : Expr → List Bool → List Bool
  | .empty, starts => starts
  | .char cls, starts => false :: List.zipWith (fun here c => here && cls.mem c) starts subject
  | .assertion condition, starts =>
    List.zipWith and starts (condition.positions none subject)
  | .seq first second, starts => ends subject second (ends subject first starts)
  | .alt first second, starts =>
    List.zipWith or (ends subject first starts) (ends subject second starts)
  | .repeated body least most, starts =>
    let required := times (ends subject body) least starts
    let further := (most.map fun bound => bound - least).getD (subject.length + 1)
    closure (ends subject body) further required required

/-- Whether the expression matches somewhere in the subject. -/
def foundIn (expr : Expr) (subject : List Char) : Bool :=
  (ends subject expr (List.replicate (subject.length + 1) true)).any id

/-- Whether no part is copied more than the given number of times when every counted
repetition is written out. -/
def copiesWithin : Expr → Nat → Bool
  | .empty, _ => true
  | .char _, _ => true
  | .assertion _, _ => true
  | .seq first second, limit => copiesWithin first limit && copiesWithin second limit
  | .alt first second, limit => copiesWithin first limit && copiesWithin second limit
  | .repeated body least most, limit =>
    match most with
    | some 0 => true
    | _ =>
      let copies := most.getD least
      if limit < copies then
        false
      else
        copiesWithin body (if copies = 0 then limit else limit / copies)

end Expr
end Regex
end PhpLint
