import PhpLint.Regex.Escape
import PhpLint.Regex.Expr

namespace PhpLint
namespace Regex

/-!
# Reading the text of a regular expression

The reader goes through the text once. Open groups are kept on a stack; each holds
the alternatives that are finished and the parts of the one being read, latest
first. A repetition applies to the latest part.
-/

structure Flags where
  ignoreCase : Bool := false
  multiLine : Bool := false
  dotAll : Bool := false

/-- What matters about a part when neighbours are put together: literals that agree about
case form one run, and nested sequences and alternatives are written flat. -/
inductive Shape where
  | literal (ignoreCase single : Bool)
  | charClass
  | sequence
  | alternatives
  | other
deriving DecidableEq

/-- An expression with the height of its tree. -/
structure Part where
  expr : Expr
  height : Nat
  shape : Shape

structure Group where
  finished : List Part := []
  parts : List Part := []
  outerFlags : Flags := {}
  capturing : Bool := false

structure Reader where
  whole : Bytes
  enclosing : List Group := []
  group : Group := {}
  flags : Flags := {}
  /-- The text from the repetition on that has just been read, if it was one. -/
  repetition? : Option Bytes := none

/-- The greatest height that an expression may have. -/
def heightLimit : Nat :=
  1000

/-- The greatest count of a repetition, also when nested counts are multiplied. -/
def repeatLimit : Nat :=
  1000

namespace Part

/-- Whether the part stands for exactly one character. -/
def isOneChar (part : Part) : Bool :=
  match part.shape with
  | .literal _ single => single
  | .charClass => true
  | _ => false

/-- The height a part adds under a node of the given shape. -/
def heightUnder (shape : Shape) (part : Part) : Nat :=
  if part.shape = shape then part.height - 1 else part.height

/-- Puts a part before parts of which the first may be a literal of the same kind. -/
def joinLiterals (part : Part) : List Part → List Part
  | [] => [part]
  | next :: rest =>
    match part.shape, next.shape with
    | .literal a _, .literal b _ =>
      if a = b then
        ⟨.seq part.expr next.expr, 1, .literal a false⟩ :: rest
      else
        part :: next :: rest
    | _, _ => part :: next :: rest

/-- Parts one after another, oldest first. -/
def sequence (parts : List Part) : Part :=
  match parts.foldr joinLiterals [] with
  | [] => ⟨.empty, 1, .other⟩
  | [part] => part
  | part :: rest =>
    ⟨(part :: rest).foldr (fun p expr => .seq p.expr expr) .empty,
      1 + ((part :: rest).map (heightUnder .sequence)).foldl max 0, .sequence⟩

/-- Adds an alternative. Neighbours of one character each form a class. -/
def addAlternative (finished : List Part) (part : Part) : List Part :=
  match finished with
  | [] => [part]
  | previous :: earlier =>
    if previous.isOneChar && part.isOneChar then
      ⟨.alt previous.expr part.expr, 1, .charClass⟩ :: earlier
    else
      part :: previous :: earlier

/-- Alternatives, latest first. -/
def alternatives (finished : List Part) : Part :=
  match finished.reverse with
  | [] => ⟨.empty, 1, .other⟩
  | [part] => part
  | part :: rest =>
    ⟨rest.foldl (fun expr p => .alt expr p.expr) part.expr,
      1 + ((part :: rest).map (heightUnder .alternatives)).foldl max 0, .alternatives⟩

end Part

namespace Reader

/-- Accepts a part unless its tree is too high. -/
def checkHeight (reader : Reader) (part : Part) : Except Error Part :=
  if heightLimit < part.height then .error ⟨.nestedTooDeeply, reader.whole⟩ else .ok part

def push (reader : Reader) (part : Part) : Reader :=
  { reader with
    group := { reader.group with parts := part :: reader.group.parts }
    repetition? := none }

def pushClass (reader : Reader) (cls : CharClass) : Reader :=
  reader.push ⟨.char cls, 1, .charClass⟩

def pushLiteral (reader : Reader) (codePoint : Nat) : Reader :=
  reader.push ⟨.char (.single codePoint reader.flags.ignoreCase), 1,
    .literal reader.flags.ignoreCase true⟩

def pushAssertion (reader : Reader) (condition : Assertion) : Reader :=
  reader.push ⟨.assertion condition, 1, .other⟩

/-- A class with a single member is a literal. -/
def pushBracketClass (reader : Reader) (cls : CharClass) : Reader :=
  match cls.sets, cls.complemented, cls.ignoreCase with
  | [{ ranges := [(low, high)], complemented := false }], false, false =>
    if low = high then reader.pushLiteral low else reader.pushClass cls
  | _, _, _ => reader.pushClass cls

/-- Ends the alternative being read. -/
def endAlternative (reader : Reader) : Except Error Reader :=
  match reader.checkHeight (Part.sequence reader.group.parts.reverse) with
  | .error error => .error error
  | .ok part =>
    .ok { reader with
      group := { reader.group with
        finished := Part.addAlternative reader.group.finished part
        parts := [] }
      repetition? := none }

/-- Opens a group. Its flags hold until it is closed. -/
def openGroup (reader : Reader) (capturing : Bool) (flags : Flags) : Reader :=
  { reader with
    enclosing := reader.group :: reader.enclosing
    group := { outerFlags := reader.flags, capturing := capturing }
    flags := flags
    repetition? := none }

/-- The expression of the group being read, all of its alternatives together. -/
def finishGroup (reader : Reader) : Except Error Part :=
  match reader.endAlternative with
  | .error error => .error error
  | .ok ended => ended.checkHeight (Part.alternatives ended.group.finished)

def closeGroup (reader : Reader) : Except Error Reader :=
  match reader.finishGroup with
  | .error error => .error error
  | .ok part =>
    match reader.enclosing with
    | [] => .error ⟨.unexpectedParenthesis, reader.whole⟩
    | outer :: enclosing =>
      let grouped :=
        if reader.group.capturing then ⟨part.expr, part.height + 1, .other⟩ else part
      match reader.checkHeight grouped with
      | .error error => .error error
      | .ok accepted =>
        .ok ({ reader with
          enclosing := enclosing
          group := outer
          flags := reader.group.outerFlags }.push accepted)

/-- Applies a repetition to the latest part. `text` starts with the repetition, and `rest`
follows it. -/
def applyRepetition (reader : Reader) (text rest : Bytes) (least : Nat) (most : Option Nat)
    (counted : Bool) : Except Error (Reader × Bytes) :=
  let afterMark := if startsWith '?' rest then rest.drop 1 else rest
  match reader.repetition? with
  | some earlier => .error ⟨.stackedRepetition, Bytes.upTo earlier afterMark⟩
  | none =>
    match reader.group.parts with
    | [] => .error ⟨.nothingToRepeat, Bytes.upTo text afterMark⟩
    | part :: parts =>
      match reader.checkHeight ⟨.repeated part.expr least most, part.height + 1, .other⟩ with
      | .error error => .error error
      | .ok result =>
        if counted && (2 ≤ least || most.any fun n => 2 ≤ n) &&
            !result.expr.copiesWithin repeatLimit then
          .error ⟨.badRepeatCount, Bytes.upTo text afterMark⟩
        else
          .ok ({ reader with
            group := { reader.group with parts := result :: parts }
            repetition? := some text }, afterMark)

end Reader

/-! ## Counts -/

/-- A number without leading zeros. -/
def readCount? (text : Bytes) : Option (Nat × Bytes) :=
  let digits := text.takeWhile Numeral.isDecimalDigit
  if digits.isEmpty || (digits.length ≥ 2 && startsWith '0' digits) then
    none
  else
    some (Numeral.value 10 digits, text.dropWhile Numeral.isDecimalDigit)

/-- The bounds between braces. The upper one may be missing. -/
def readBounds? (text : Bytes) : Option (Nat × Option Nat × Bytes) :=
  match readCount? (text.drop 1) with
  | none => none
  | some (least, rest) =>
    if startsWith '\x7d' rest then
      some (least, some least, rest.drop 1)
    else if startsWith ',' rest then
      let upper := rest.drop 1
      if startsWith '\x7d' upper then
        some (least, none, upper.drop 1)
      else
        match readCount? upper with
        | none => none
        | some (most, afterMost) =>
          if startsWith '\x7d' afterMost then some (least, some most, afterMost.drop 1) else none
    else
      none

/-! ## Groups with flags and names -/

/-- Reads the flags after `(?`, up to the colon or the closing parenthesis. The result tells
whether a group is opened. On failure it gives back the text that is left. -/
def readFlags : Nat → Flags → Bool → Bool → Bytes →
    Except Error (Except Bytes (Flags × Bool × Bytes))
  | 0, _, _, _, text => .ok (.error text)
  | fuel + 1, flags, negative, seen, text =>
    if text.isEmpty then
      .ok (.error [])
    else
      match nextChar text with
      | .error error => .error error
      | .ok (c, rest) =>
        match c with
        | 'i' => readFlags fuel { flags with ignoreCase := !negative } negative true rest
        | 'm' => readFlags fuel { flags with multiLine := !negative } negative true rest
        | 's' => readFlags fuel { flags with dotAll := !negative } negative true rest
        | 'U' => readFlags fuel flags negative true rest
        | '-' => if negative then .ok (.error rest) else readFlags fuel flags true false rest
        | ':' =>
          if negative && !seen then .ok (.error rest) else .ok (.ok (flags, true, rest))
        | ')' =>
          if negative && !seen then .ok (.error rest) else .ok (.ok (flags, false, rest))
        | _ => .ok (.error rest)

def isNameByte (b : UInt8) : Bool :=
  Numeral.isDecimalDigit b || (Bytes.ascii 'a' ≤ b && b ≤ Bytes.ascii 'z') ||
    (Bytes.ascii 'A' ≤ b && b ≤ Bytes.ascii 'Z') || b = Bytes.ascii '_'

namespace Reader

/-- Reads what follows an opening parenthesis with a question mark. -/
def readSpecialGroup (reader : Reader) (text : Bytes) : Except Error (Reader × Bytes) :=
  let longForm := text.length > 4 && (utf8 "(?P<").isPrefixOf text
  let shortForm := text.length > 3 && (utf8 "(?<").isPrefixOf text
  if longForm || shortForm then
    match Bytes.cut? [Bytes.ascii '>'] text with
    | none =>
      match checkUtf8 text.length text with
      | .error error => .error error
      | .ok _ => .error ⟨.badGroupName, text⟩
    | some (opening, rest) =>
      let name := opening.drop (if shortForm then 3 else 4)
      match checkUtf8 name.length name with
      | .error error => .error error
      | .ok _ =>
        if name.isEmpty || !name.all isNameByte then
          .error ⟨.badGroupName, Bytes.upTo text rest⟩
        else
          .ok (reader.openGroup true reader.flags, rest)
  else
    match readFlags text.length reader.flags false false (text.drop 2) with
    | .error error => .error error
    | .ok (.error left) => .error ⟨.badGroupFlags, Bytes.upTo text left⟩
    | .ok (.ok (flags, opens, rest)) =>
      if opens then
        .ok (reader.openGroup false flags, rest)
      else
        .ok ({ reader with flags := flags, repetition? := none }, rest)

/-- Pushes every character of a text as a literal. -/
def pushLiterals : Nat → Reader → Bytes → Except Error Reader
  | _, reader, [] => .ok reader
  | 0, reader, _ => .ok reader
  | fuel + 1, reader, text =>
    match nextChar text with
    | .error error => .error error
    | .ok (c, rest) => pushLiterals fuel (reader.pushLiteral c.toNat) rest

/-- Reads a backslash and what belongs to it. -/
def readBackslash (reader : Reader) (text : Bytes) : Except Error (Reader × Bytes) :=
  let rest := text.drop 2
  let plain : Except Error (Reader × Bytes) :=
    match classEscape? text with
    | some (set, afterSet) =>
      .ok (reader.pushClass { sets := [set], ignoreCase := reader.flags.ignoreCase }, afterSet)
    | none =>
      match readEscape text with
      | .error error => .error error
      | .ok (codePoint, afterEscape) => .ok (reader.pushLiteral codePoint, afterEscape)
  match text.drop 1 with
  | [] => plain
  | letter :: _ =>
    if letter = Bytes.ascii 'A' then .ok (reader.pushAssertion .textStart, rest)
    else if letter = Bytes.ascii 'b' then .ok (reader.pushAssertion .wordBoundary, rest)
    else if letter = Bytes.ascii 'B' then .ok (reader.pushAssertion .noWordBoundary, rest)
    else if letter = Bytes.ascii 'z' then .ok (reader.pushAssertion .textEnd, rest)
    else if letter = Bytes.ascii 'C' then .error ⟨.badEscape, text.take 2⟩
    else if letter = Bytes.ascii 'Q' then
      let (quoted, afterQuote) := (Bytes.cut? (utf8 "\\E") rest).getD (rest, [])
      match pushLiterals quoted.length { reader with repetition? := none } quoted with
      | .error error => .error error
      | .ok pushed => .ok (pushed, afterQuote)
    else if letter = Bytes.ascii 'p' || letter = Bytes.ascii 'P' then
      match readProperty text with
      | .error error => .error error
      | .ok (set, afterSet) =>
        .ok (reader.pushClass { sets := [set], ignoreCase := reader.flags.ignoreCase }, afterSet)
    else plain

/-- Reads one construct from the front of a text that is not empty. -/
def step (reader : Reader) (text : Bytes) : Except Error (Reader × Bytes) :=
  let rest := text.drop 1
  if startsWith '(' text then
    if startsWith '?' rest then
      reader.readSpecialGroup text
    else
      .ok (reader.openGroup true reader.flags, rest)
  else if startsWith '|' text then
    reader.endAlternative.map fun ended => (ended, rest)
  else if startsWith ')' text then
    reader.closeGroup.map fun closed => (closed, rest)
  else if startsWith '^' text then
    .ok (reader.pushAssertion (if reader.flags.multiLine then .lineStart else .textStart), rest)
  else if startsWith '$' text then
    .ok (reader.pushAssertion (if reader.flags.multiLine then .lineEnd else .textEnd), rest)
  else if startsWith '.' text then
    .ok (reader.pushClass (if reader.flags.dotAll then .anyChar else .anyButLineFeed), rest)
  else if startsWith '[' text then
    (readClass reader.flags.ignoreCase text).map
      fun (cls, afterClass) => (reader.pushBracketClass cls, afterClass)
  else if startsWith '*' text then
    reader.applyRepetition text rest 0 none false
  else if startsWith '+' text then
    reader.applyRepetition text rest 1 none false
  else if startsWith '?' text then
    reader.applyRepetition text rest 0 (some 1) false
  else if startsWith '\x7b' text then
    match readBounds? text with
    | none => .ok (reader.pushLiteral (Char.toNat '\x7b'), rest)
    | some (least, most, afterBounds) =>
      if repeatLimit < least || most.any (fun n => repeatLimit < n || n < least) then
        .error ⟨.badRepeatCount, Bytes.upTo text afterBounds⟩
      else
        reader.applyRepetition text afterBounds least most true
  else if startsWith '\\' text then
    reader.readBackslash text
  else
    (nextChar text).map fun (c, afterChar) => (reader.pushLiteral c.toNat, afterChar)

/-- Reads constructs to the end of the text. -/
def run : Nat → Reader → Bytes → Except Error Reader
  | _, reader, [] => .ok reader
  | 0, reader, _ => .ok reader
  | fuel + 1, reader, text =>
    match reader.step text with
    | .error error => .error error
    | .ok (next, rest) => run fuel next rest

end Reader

/-- The expression that a text spells. -/
def parse (text : Bytes) : Except Error Expr :=
  match Reader.run text.length { whole := text } text with
  | .error error => .error error
  | .ok reader =>
    match reader.finishGroup with
    | .error error => .error error
    | .ok part =>
      if reader.enclosing.isEmpty then
        .ok part.expr
      else
        .error ⟨.missingParenthesis, text⟩

end Regex
end PhpLint
