import PhpLint.Text.Utf8

namespace PhpLint

/-!
# Glob patterns

A pattern is a sequence of runs of one-character items with stars between the
runs. A star skips any bytes but a slash, as few as the run after it allows, and
an earlier choice is never taken back. `?` is any character but a slash, `[...]`
a class of characters, a backslash makes the next byte stand for itself, and
every other byte stands for itself.

A pattern is cut at its stars, and the items of a run are read while the run is
matched with a name. A malformed item is noticed when its run is read, so a run
is read to its end also after the name has failed to match, and the runs after a
failure are read as well.
-/

namespace Glob

/-- A range of a class, both ends included. -/
structure Range where
  low : Char
  high : Char
deriving DecidableEq

def Range.mem (range : Range) (c : Char) : Bool :=
  range.low ≤ c && c ≤ range.high

/-- What one position of a name may hold. -/
inductive Item where
  | byte (b : UInt8)
  | anyButSlash
  | oneOf (negated : Bool) (ranges : List Range)
deriving DecidableEq

/-! ## Reading patterns -/

/-- One end of a range: a character, which a backslash may precede. Something has to follow
it, because the class is still open. -/
def classChar? : Bytes → Option (Char × Bytes)
  | [] => none
  | b :: rest =>
    if b = Bytes.ascii '-' || b = Bytes.ascii ']' then
      none
    else
      let text := if b = Bytes.ascii '\\' then rest else b :: rest
      match Utf8.front? text with
      | some (c, width) =>
        if (text.drop width).isEmpty then none else some (c, text.drop width)
      | none => none

/-- A range, or a single character as a range of one. -/
def range? (text : Bytes) : Option (Range × Bytes) :=
  match classChar? text with
  | none => none
  | some (low, rest) =>
    match rest with
    | [] => none
    | b :: afterDash =>
      if b = Bytes.ascii '-' then
        (classChar? afterDash).map fun (high, afterRange) => (⟨low, high⟩, afterRange)
      else
        some (⟨low, low⟩, rest)

/-- The ranges up to the closing bracket, at least one, and the text after the bracket. -/
def ranges? : Nat → Bytes → Option (List Range × Bytes)
  | 0, _ => none
  | fuel + 1, text =>
    match range? text with
    | none => none
    | some (range, rest) =>
      match rest with
      | [] => none
      | b :: afterBracket =>
        if b = Bytes.ascii ']' then
          some ([range], afterBracket)
        else
          (ranges? fuel rest).map fun (ranges, afterClass) => (range :: ranges, afterClass)

/-- The class whose opening bracket has just been read. -/
def class? (text : Bytes) : Option (Item × Bytes) :=
  match text with
  | [] => none
  | b :: rest =>
    let negated := b == Bytes.ascii '^'
    (ranges? text.length (if negated then rest else text)).map
      fun (ranges, afterClass) => (.oneOf negated ranges, afterClass)

/-- The item at the front of a text that starts with no star. -/
def item? : Bytes → Option (Item × Bytes)
  | [] => none
  | b :: rest =>
    if b = Bytes.ascii '[' then
      class? rest
    else if b = Bytes.ascii '?' then
      some (.anyButSlash, rest)
    else if b = Bytes.ascii '\\' then
      match rest with
      | [] => none
      | c :: afterEscape => some (.byte c, afterEscape)
    else
      some (.byte b, rest)

/-! ## Matching names -/

/-- What is left of a name after its front has been matched with an item. -/
def Item.consume? (item : Item) : Bytes → Option Bytes
  | [] => none
  | b :: rest =>
    let width := (Utf8.front? (b :: rest)).elim 1 Prod.snd
    let c := (Utf8.front? (b :: rest)).elim Utf8.replacement Prod.fst
    match item with
    | .byte expected => if b = expected then some rest else none
    | .anyButSlash => if b = Bytes.slash then none else some ((b :: rest).drop width)
    | .oneOf negated ranges =>
      if ranges.any (fun range => range.mem c) == negated then
        none
      else
        some ((b :: rest).drop width)

/-- Matches a name with at most as many items as the fuel allows. -/
def matchItems : Nat → Bytes → Option Bytes → Option (Option Bytes)
  | _, [], rest? => some rest?
  | 0, _ :: _, _ => none
  | fuel + 1, b :: run, rest? =>
    match item? (b :: run) with
    | none => none
    | some (item, later) => matchItems fuel later (rest?.bind item.consume?)

/-- What is left of a name after its front has been matched with the items of a run. The inner
option says whether the name matches, the outer one whether the run is well-formed. -/
def matchRun (run name : Bytes) : Option (Option Bytes) :=
  matchItems run.length run (some name)

/-- Whether a run is well-formed. -/
def isRun (run : Bytes) : Bool :=
  (matchRun run []).isSome

/-- The rests of a name that a star may leave, longest first. -/
def starRests : Bytes → List Bytes
  | [] => [[]]
  | b :: rest => (b :: rest) :: (if b = Bytes.slash then [] else starRests rest)

/-- What is left after the run has been matched at the first of the given starts where that
leaves an acceptable rest. -/
def matchAtFirst (run : Bytes) (acceptable : Bytes → Bool) :
    List Bytes → Option (Option Bytes)
  | [] => some none
  | start :: starts =>
    match matchRun run start with
    | none => none
    | some rest? =>
      match rest?.filter acceptable with
      | some rest => some (some rest)
      | none => matchAtFirst run acceptable starts

/-- The answer for a name that does not match, after the remaining runs have been read. -/
def refuse (later : List Bytes) : Option Bool :=
  if later.all isRun then some false else none

/-- Matches a name with runs that have a star before each. The last run has to reach the end
of the name. -/
def matchStarred : List Bytes → Bytes → Option Bool
  | [], name => some name.isEmpty
  | run :: later, name =>
    let acceptable (rest : Bytes) : Bool := rest.isEmpty || !later.isEmpty
    match matchAtFirst run acceptable (starRests name) with
    | none => none
    | some none => refuse later
    | some (some rest) => matchStarred later rest

/-- The run before the first star, and the runs after each star up to the next one. A star
inside brackets is no such star; whether a bracket is open is given. -/
def runs : Bool → Bytes → Bytes × List Bytes
  | _, [] => ([], [])
  | bracket, b :: rest =>
    if b = Bytes.ascii '\\' then
      match rest with
      | [] => ([b], [])
      | escaped :: afterEscape =>
        let (first, later) := runs bracket afterEscape
        (b :: escaped :: first, later)
    else if b = Bytes.ascii '*' && !bracket then
      let (first, later) := runs false rest
      ([], first :: later)
    else
      let open? := b = Bytes.ascii '[' || (bracket && b != Bytes.ascii ']')
      let (first, later) := runs open? rest
      (b :: first, later)

/-- Whether a pattern matches the whole name. There is no answer if the pattern is
malformed. -/
def isMatch? (pattern name : Bytes) : Option Bool :=
  let (first, later) := runs false pattern
  match matchRun first name with
  | none => none
  | some none => refuse later
  | some (some rest) => matchStarred later rest

end Glob
end PhpLint
