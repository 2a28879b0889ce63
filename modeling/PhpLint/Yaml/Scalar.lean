import PhpLint.Text.Numeral
import PhpLint.Yaml.Cursor

namespace PhpLint
namespace Yaml

/-!
# Plain scalars, quoted scalars and blocks

Every reader starts at the first character of a scalar and gives the text of the
scalar with the cursor after it, or nothing if the scalar is malformed. Blanks
and line breaks inside a scalar are folded: a single line break becomes a space,
and of several breaks the first is left out. The fuel of a reader is at least the
number of characters that are left.
-/

/-- What stands between two words of a scalar. -/
structure Gap where
  /-- The blanks, as long as there is no line break. -/
  blanks : List Char := []
  /-- Whether the gap reaches into another line. -/
  broken : Bool := false
  firstBreak : List Char := []
  laterBreaks : List Char := []

namespace Gap

/-- The text that a gap stands for. -/
def folded (gap : Gap) : List Char :=
  if !gap.broken then
    gap.blanks
  else if gap.firstBreak == ['\n'] then
    if gap.laterBreaks.isEmpty then [' '] else gap.laterBreaks
  else
    gap.firstBreak ++ gap.laterBreaks

/-- Adds the line break at the cursor. -/
def addBreak (gap : Gap) (cursor : Cursor) : Gap :=
  if gap.broken then
    { gap with laterBreaks := gap.laterBreaks ++ cursor.breakText }
  else
    { broken := true, firstBreak := cursor.breakText }

/-- Adds a blank. Blanks after a line break are left out. -/
def addBlank (gap : Gap) (c : Char) : Gap :=
  if gap.broken then gap else { gap with blanks := gap.blanks ++ [c] }

end Gap

/-- Reads blanks and line breaks into a gap. A tab that stands after a line break before the
given column is an error. -/
def readGap (tabColumn : Nat) : Nat → Gap → Cursor → Option (Gap × Cursor)
  | 0, gap, cursor => some (gap, cursor)
  | fuel + 1, gap, cursor =>
    match cursor.head? with
    | none => some (gap, cursor)
    | some c =>
      if isBreak c then
        readGap tabColumn fuel (gap.addBreak cursor) cursor.skipBreak
      else if isBlank c then
        if gap.broken && cursor.column < tabColumn && c == '\t' then
          none
        else
          readGap tabColumn fuel (gap.addBlank c) (cursor.skip 1)
      else
        some (gap, cursor)

/-! ## Quoted scalars -/

/-- The character of an escape with a single letter. -/
def escapedChar? (c : Char) : Option Char :=
  match c with
  | '0' => some (Char.ofNat 0x00)
  | 'a' => some (Char.ofNat 0x07)
  | 'b' => some (Char.ofNat 0x08)
  | 't' => some '\t'
  | '\t' => some '\t'
  | 'n' => some '\n'
  | 'v' => some (Char.ofNat 0x0B)
  | 'f' => some (Char.ofNat 0x0C)
  | 'r' => some '\r'
  | 'e' => some (Char.ofNat 0x1B)
  | ' ' => some ' '
  | '"' => some '"'
  | '\'' => some '\''
  | '\\' => some '\\'
  | 'N' => some (Char.ofNat 0x85)
  | '_' => some (Char.ofNat 0xA0)
  | 'L' => some (Char.ofNat 0x2028)
  | 'P' => some (Char.ofNat 0x2029)
  | _ => none

/-- The number of hexadecimal digits after a letter. -/
def escapeLength? (c : Char) : Option Nat :=
  match c with
  | 'x' => some 2
  | 'u' => some 4
  | 'U' => some 8
  | _ => none

/-- The number spelled by hexadecimal digits. -/
def hexNumber? (digits : List Char) : Option Nat :=
  digits.foldl (fun n? c => n?.bind fun n => (Numeral.hexValue? c).map fun d => n * 16 + d) (some 0)

/-- The character with a code, unless the code is no character. -/
def charOfCode? (code : Nat) : Option Char :=
  if code.isValidChar then some (Char.ofNat code) else none

/-- Reads an escape from its backslash on. -/
def readEscape? (cursor : Cursor) : Option (Char × Cursor) :=
  match cursor.ahead? 1 with
  | none => none
  | some letter =>
    match escapedChar? letter with
    | some c => some (c, cursor.skip 2)
    | none =>
      match escapeLength? letter with
      | none => none
      | some count =>
        let digits := (cursor.rest.drop 2).take count
        if digits.length = count then
          ((hexNumber? digits).bind charOfCode?).map fun c => (c, cursor.skip (2 + count))
        else
          none

/-- Reads the rest of a quoted scalar. The text that has been read comes last character
first. -/
def readQuotedRest (single : Bool) : Nat → List Char → Cursor → Option (List Char × Cursor)
  | 0, _, _ => none
  | fuel + 1, text, cursor =>
    match cursor.head? with
    | none => none
    | some c =>
      if cursor.atDocumentMarker then
        none
      else if isBlank c || isBreak c then
        match readGap 0 fuel {} cursor with
        | none => none
        | some (gap, next) => readQuotedRest single fuel (gap.folded.reverse ++ text) next
      else if single then
        if c != '\'' then
          readQuotedRest single fuel (c :: text) (cursor.skip 1)
        else if cursor.ahead? 1 = some '\'' then
          readQuotedRest single fuel ('\'' :: text) (cursor.skip 2)
        else
          some (text.reverse, cursor.skip 1)
      else if c == '"' then
        some (text.reverse, cursor.skip 1)
      else if c == '\\' then
        if (cursor.ahead? 1).any isBreak then
          -- The break and the blanks around it vanish.
          match readGap 0 fuel { broken := true } (cursor.skip 1).skipBreak with
          | none => none
          | some (gap, next) => readQuotedRest single fuel (gap.folded.reverse ++ text) next
        else
          match readEscape? cursor with
          | none => none
          | some (escaped, next) => readQuotedRest single fuel (escaped :: text) next
      else
        readQuotedRest single fuel (c :: text) (cursor.skip 1)

/-- Reads a quoted scalar from its opening quote on. -/
def readQuoted (fuel : Nat) (cursor : Cursor) : Option (List Char × Cursor) :=
  readQuotedRest (cursor.isAt '\'') fuel [] (cursor.skip 1)

/-! ## Plain scalars -/

/-- Whether a plain scalar ends before a character that has the given one after it. -/
def endsPlain (inFlow : Bool) (c : Char) (next? : Option Char) : Bool :=
  (c == ':' && next?.all fun next => isBlank next || isBreak next) ||
    (inFlow && (c == ',' || c == '[' || c == ']' || c == '\x7b' || c == '\x7d' ||
      (c == '?' && next?.all fun next => next == ' ' || isBreak next)))

/-- The word of a plain scalar at the front of a text. -/
def plainWord (inFlow : Bool) : List Char → List Char
  | [] => []
  | c :: rest =>
    if isBlank c || isBreak c || endsPlain inFlow c rest.head? then
      []
    else
      c :: plainWord inFlow rest

/-- A plain scalar, with the information whether the gap after it reaches into another line. -/
structure PlainScalar where
  text : List Char
  broken : Bool
  next : Cursor

/-- Reads words as long as they belong to the scalar. Outside of flow collections a line has
to be indented to the given column. -/
def readPlainRest (inFlow : Bool) (indent : Nat) :
    Nat → List Char → Gap → Cursor → Option PlainScalar
  | 0, text, gap, cursor => some ⟨text, gap.broken, cursor⟩
  | fuel + 1, text, gap, cursor =>
    if cursor.atDocumentMarker || cursor.isAt '#' then
      some ⟨text, gap.broken, cursor⟩
    else
      let word := plainWord inFlow cursor.rest
      let afterWord := cursor.skip word.length
      let joined := if word.isEmpty then text else text ++ gap.folded ++ word
      let remaining : Gap := if word.isEmpty then gap else {}
      if afterWord.atBlank || afterWord.atBreak then
        match readGap indent fuel remaining afterWord with
        | none => none
        | some (nextGap, next) =>
          if !inFlow && next.column < indent then
            some ⟨joined, nextGap.broken, next⟩
          else
            readPlainRest inFlow indent fuel joined nextGap next
      else
        some ⟨joined, remaining.broken, afterWord⟩

def readPlain (fuel : Nat) (inFlow : Bool) (indent : Nat) (cursor : Cursor) :
    Option PlainScalar :=
  readPlainRest inFlow indent fuel [] {} cursor

/-! ## Block scalars -/

/-- What happens to the line breaks at the end of a block. -/
inductive Chomping where
  | strip
  | clip
  | keep
deriving DecidableEq

def chompingOf? (c? : Option Char) : Option Chomping :=
  match c? with
  | some '+' => some .keep
  | some '-' => some .strip
  | _ => none

/-- Reads the indentation digit and the chomping mark, in either order. -/
def readBlockHeader (cursor : Cursor) : Option (Chomping × Nat × Cursor) :=
  let digitAt (c : Cursor) : Option (Nat × Cursor) :=
    match c.head? with
    | some d => if d.isDigit then some (d.toNat - 48, c.skip 1) else none
    | none => none
  match chompingOf? cursor.head? with
  | some chomping =>
    match digitAt (cursor.skip 1) with
    | some (0, _) => none
    | some (digit, next) => some (chomping, digit, next)
    | none => some (chomping, 0, cursor.skip 1)
  | none =>
    match digitAt cursor with
    | some (0, _) => none
    | some (digit, next) =>
      match chompingOf? next.head? with
      | some chomping => some (chomping, digit, next.skip 1)
      | none => some (.clip, digit, next)
    | none => some (.clip, 0, cursor)

/-- Skips empty lines and the indentation of the next line. An indentation of zero is not
known yet; then the greatest column is determined. -/
def readBlockBreaks (indent : Nat) :
    Nat → Nat → List Char → Cursor → Option (Nat × List Char × Cursor)
  | 0, greatest, breaks, cursor => some (greatest, breaks, cursor)
  | fuel + 1, greatest, breaks, cursor =>
    let spaces := (cursor.rest.takeWhile fun c => c == ' ').length
    let wanted := if indent = 0 then spaces else min spaces (indent - cursor.column)
    let indented := cursor.skip wanted
    let reached := max greatest indented.column
    if (indent = 0 || indented.column < indent) && indented.isAt '\t' then
      none
    else if indented.atBreak then
      readBlockBreaks indent fuel reached (breaks ++ indented.breakText) indented.skipBreak
    else
      some (reached, breaks, indented)

/-- The state between two lines of a block. -/
structure BlockLines where
  text : List Char := []
  /-- The break after the line before. -/
  lineBreak : List Char := []
  /-- The breaks of the empty lines after it. -/
  emptyBreaks : List Char := []
  /-- Whether the line before began with a blank. -/
  afterBlank : Bool := false

/-- Reads the lines of a block that are indented to the given column. -/
def readBlockLines (literal : Bool) (indent : Nat) :
    Nat → BlockLines → Cursor → Option (BlockLines × Cursor)
  | 0, lines, cursor => some (lines, cursor)
  | fuel + 1, lines, cursor =>
    if cursor.column == indent && !cursor.rest.isEmpty then
      let blank := cursor.atBlank
      let folds := !literal && lines.lineBreak == ['\n'] && !lines.afterBlank && !blank
      let joint :=
        if folds then (if lines.emptyBreaks.isEmpty then [' '] else []) else lines.lineBreak
      let (line, afterLine) := cursor.takeWhile fun c => !isBreak c
      match readBlockBreaks indent fuel 0 [] afterLine.skipBreak with
      | none => none
      | some (_, breaks, next) =>
        readBlockLines literal indent fuel
          { text := lines.text ++ joint ++ lines.emptyBreaks ++ line
            lineBreak := afterLine.breakText
            emptyBreaks := breaks
            afterBlank := blank }
          next
    else
      some (lines, cursor)

/-- Reads a block scalar from its indicator on. `indent` is the column that its lines have to
reach at least. -/
def readBlock (fuel indent : Nat) (cursor : Cursor) : Option (List Char × Cursor) :=
  match readBlockHeader (cursor.skip 1) with
  | none => none
  | some (chomping, digit, afterHeader) =>
    let lineEnd := (afterHeader.skipWhile isBlank).skipComment
    if !lineEnd.endsLine 0 then
      none
    else
      let given := if digit = 0 then 0 else indent - 1 + digit
      match readBlockBreaks given fuel 0 [] lineEnd.skipBreak with
      | none => none
      | some (greatest, breaks, first) =>
        let column := if digit = 0 then max (max greatest indent) 1 else given
        match readBlockLines (cursor.isAt '|') column fuel { emptyBreaks := breaks } first with
        | none => none
        | some (lines, next) =>
          let ending := match chomping with
            | .strip => []
            | .clip => lines.lineBreak
            | .keep => lines.lineBreak ++ lines.emptyBreaks
          some (lines.text ++ ending, next)

end Yaml
end PhpLint
