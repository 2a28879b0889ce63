import PhpLint.Yaml.Scalar
import PhpLint.Yaml.Source

namespace PhpLint
namespace Yaml

/-!
# Tokens of a YAML text

Indentation becomes tokens as well: a token opens every block collection, and a
token closes it where the indentation falls back. A key without an indicator of
its own is only recognised by the colon after it. Therefore every token that may
turn out to be a key is remembered, one for each open flow collection, and the
tokens that announce the key are put in front of it when the colon comes.
-/

inductive TokenKind where
  | streamEnd
  | versionDirective (major minor : Nat)
  | tagDirective (handle expansion : Bytes)
  | documentStart
  | documentEnd
  | blockSequenceStart
  | blockMappingStart
  | blockEnd
  | flowSequenceStart
  | flowSequenceEnd
  | flowMappingStart
  | flowMappingEnd
  | blockEntry
  | flowEntry
  | key
  | value
  | alias (name : Bytes)
  | anchor (name : Bytes)
  | tag (handle suffix : Bytes)
  | scalar (text : Bytes) (isPlain : Bool)
  /-- The text cannot be read from here on. -/
  | malformed
deriving DecidableEq

/-- A token with the line it begins in, counted from zero. -/
structure Token where
  kind : TokenKind
  line : Nat
deriving DecidableEq

/-! ## Anchors, tags and directives -/

/-- Reads the name of an anchor or alias after its indicator. -/
def readAnchorName (cursor : Cursor) : Option (Bytes × Cursor) :=
  let (name, next) := (cursor.skip 1).takeWhile isNameChar
  let ends := next.endsWord 0 || next.head?.any fun c => "?:,]\x7d%@`".toList.contains c
  if name.isEmpty || !ends then none else some (Utf8.encode name, next)

/-- The characters of tags, apart from those of names and the escapes. -/
def isTagChar (c : Char) : Bool :=
  isNameChar c || ";/?:@&=+$,.!~*'()[]".toList.contains c

/-- The byte of an escape in a tag. -/
def escapedByte? (cursor : Cursor) : Option UInt8 :=
  match cursor.rest with
  | '%' :: high :: low :: _ =>
    match Numeral.hexValue? high, Numeral.hexValue? low with
    | some a, some b => some (UInt8.ofNat (a * 16 + b))
    | _, _ => none
  | _ => none

/-- Reads the escaped bytes of one character. -/
def readEscapedBytes : Nat → Bytes → Cursor → Option (Bytes × Cursor)
  | 0, _, _ => none
  | count + 1, bytes, cursor =>
    match escapedByte? cursor with
    | none => none
    | some byte =>
      if count = 0 then
        some (bytes ++ [byte], cursor.skip 3)
      else
        readEscapedBytes count (bytes ++ [byte]) (cursor.skip 3)

/-- Reads the text of a tag as far as it goes. -/
def readTagText : Nat → Bytes → Cursor → Option (Bytes × Cursor)
  | 0, text, cursor => some (text, cursor)
  | fuel + 1, text, cursor =>
    match cursor.head? with
    | none => some (text, cursor)
    | some c =>
      if c == '%' then
        match escapedByte? cursor with
        | none => none
        | some first =>
          match readEscapedBytes (encodedLength first) [] cursor with
          | none => none
          | some (bytes, next) =>
            if (bytes.drop 1).all fun b => 0x80 ≤ b && b < 0xC0 then
              readTagText fuel (text ++ bytes) next
            else
              none
      else if isTagChar c then
        readTagText fuel (text ++ Utf8.encode [c]) (cursor.skip 1)
      else
        some (text, cursor)

/-- Reads the handle of a tag: an exclamation mark, a name, and a second mark if it is there. -/
def readTagHandle (cursor : Cursor) : Bytes × Cursor :=
  let (name, next) := (cursor.skip 1).takeWhile isNameChar
  if next.isAt '!' then
    (utf8 "!" ++ Utf8.encode name ++ utf8 "!", next.skip 1)
  else
    (utf8 "!" ++ Utf8.encode name, next)

/-- Reads a tag and splits it into its handle and the rest. -/
def readTag (fuel : Nat) (cursor : Cursor) : Option (TokenKind × Cursor) :=
  let read? : Option (TokenKind × Cursor) :=
    if cursor.ahead? 1 = some '<' then
      match readTagText fuel [] (cursor.skip 2) with
      | none => none
      | some (suffix, next) =>
        if suffix.isEmpty || !next.isAt '>' then none else some (.tag [] suffix, next.skip 1)
    else
      let (handle, afterHandle) := readTagHandle cursor
      match readTagText fuel [] afterHandle with
      | none => none
      | some (suffix, next) =>
        if 1 < handle.length && handle.getLast? = some (Bytes.ascii '!') then
          if suffix.isEmpty then none else some (.tag handle suffix, next)
        else
          let whole := handle.drop 1 ++ suffix
          if whole.isEmpty then
            some (.tag [] (utf8 "!"), next)
          else
            some (.tag (utf8 "!") whole, next)
  read?.filter fun (_, next) => next.endsWord 0

/-- Reads a number of one or two digits. -/
def readShortNumber (cursor : Cursor) : Option (Nat × Cursor) :=
  let (digits, next) := cursor.takeWhile Char.isDigit
  if digits.isEmpty || 2 < digits.length then
    none
  else
    some (digits.foldl (fun n c => n * 10 + (c.toNat - 48)) 0, next)

/-- Reads the value of a directive with the given name. -/
def readDirectiveValue (fuel : Nat) (name : List Char) (cursor : Cursor) :
    Option (TokenKind × Cursor) :=
  let start := cursor.skipWhile isBlank
  if name = "YAML".toList then
    match readShortNumber start with
    | none => none
    | some (major, afterMajor) =>
      if afterMajor.isAt '.' then
        (readShortNumber (afterMajor.skip 1)).map
          fun (minor, next) => (.versionDirective major minor, next)
      else
        none
  else if name = "TAG".toList then
    let (handle, afterHandle) := readTagHandle start
    let closed := handle.getLast? = some (Bytes.ascii '!')
    if start.isAt '!' && closed && afterHandle.atBlank then
      match readTagText fuel [] (afterHandle.skipWhile isBlank) with
      | none => none
      | some (expansion, next) =>
        if expansion.isEmpty || !next.endsWord 0 then
          none
        else
          some (.tagDirective handle expansion, next)
    else
      none
  else
    none

/-- Reads a directive to the end of its line. -/
def readDirective (fuel : Nat) (cursor : Cursor) : Option (TokenKind × Cursor) :=
  let (name, afterName) := (cursor.skip 1).takeWhile isNameChar
  if name.isEmpty || !afterName.endsWord 0 then
    none
  else
    match readDirectiveValue fuel name afterName with
    | none => none
    | some (kind, afterValue) =>
      let lineEnd := (afterValue.skipWhile isBlank).skipComment
      if lineEnd.endsLine 0 then some (kind, lineEnd.skipBreak) else none

/-! ## The state of the reader -/

/-- A token that may turn out to be a key. -/
structure PossibleKey where
  /-- The number of tokens before it. -/
  position : Nat
  /-- Whether nothing but a key may stand there. -/
  required : Bool
  index : Nat
  line : Nat
  column : Nat

structure TokenReader where
  cursor : Cursor
  /-- The tokens that have been read, latest first. -/
  tokens : List Token := []
  /-- The number of tokens. -/
  count : Nat := 0
  /-- The columns of the open block collections, innermost first. -/
  indents : List Nat := []
  /-- The possible key of each open flow collection, innermost first, and of the block. -/
  keys : List (Option PossibleKey) := [none]
  keyAllowed : Bool := true
  /-- Whether the text ends where its characters end. Otherwise it breaks off there. -/
  complete : Bool := true

namespace TokenReader

def inFlow (reader : TokenReader) : Bool :=
  1 < reader.keys.length

/-- The least column of what belongs to the innermost block collection. -/
def minColumn (reader : TokenReader) : Nat :=
  match reader.indents with
  | [] => 0
  | indent :: _ => indent + 1

/-- Adds a token that begins at the cursor. -/
def emit (reader : TokenReader) (kind : TokenKind) : TokenReader :=
  { reader with
    tokens := ⟨kind, reader.cursor.line⟩ :: reader.tokens
    count := reader.count + 1 }

/-- Adds a token before the tokens from a position on. -/
def insert (reader : TokenReader) (position line : Nat) (kind : TokenKind) : TokenReader :=
  let later := reader.count - position
  { reader with
    tokens := reader.tokens.take later ++ [⟨kind, line⟩] ++ reader.tokens.drop later
    count := reader.count + 1 }

/-- Opens a block collection at a column, unless the column belongs to an open one. -/
def indentTo (reader : TokenReader) (column position line : Nat) (kind : TokenKind) :
    TokenReader :=
  if !reader.inFlow && reader.minColumn ≤ column then
    { reader.insert position line kind with indents := column :: reader.indents }
  else
    reader

/-- Closes the block collections of the given columns that lie beyond a column. -/
def dedentFrom (column? : Option Nat) : List Nat → TokenReader → TokenReader
  | [], reader => { reader with indents := [] }
  | indent :: rest, reader =>
    if column?.all fun column => column < indent then
      dedentFrom column? rest (reader.emit .blockEnd)
    else
      { reader with indents := indent :: rest }

/-- Closes the block collections that lie beyond a column, or all of them. -/
def dedentTo (reader : TokenReader) (column? : Option Nat) : TokenReader :=
  if reader.inFlow then reader else dedentFrom column? reader.indents reader

/-- Forgets the possible key. It is an error if a key is required there. -/
def forgetKey (reader : TokenReader) : Option TokenReader :=
  match reader.keys with
  | some key :: rest => if key.required then none else some { reader with keys := none :: rest }
  | _ => some reader

/-- Remembers that the token at the cursor may be a key. -/
def rememberKey (reader : TokenReader) : Option TokenReader :=
  if reader.keyAllowed then
    reader.forgetKey.map fun cleared =>
      let cursor := reader.cursor
      let required := !reader.inFlow && reader.indents.head? == some cursor.column
      let key : PossibleKey :=
        ⟨reader.count, required, cursor.index, cursor.line, cursor.column⟩
      { cleared with keys := some key :: cleared.keys.drop 1 }
  else
    some reader

/-- Emits the token at the cursor and skips its characters. -/
def emitSkipping (reader : TokenReader) (kind : TokenKind) (count : Nat) (keyAllowed : Bool) :
    TokenReader :=
  { reader.emit kind with cursor := reader.cursor.skip count, keyAllowed := keyAllowed }

/-- The greatest distance of the colon from the beginning of a key. -/
def keyLimit : Nat :=
  1024

/-- Whether a key that began earlier can still end at the cursor. -/
def reaches (reader : TokenReader) (key : PossibleKey) : Bool :=
  reader.cursor.line ≤ key.line && reader.cursor.index ≤ key.index + keyLimit

/-- The possible key, if the cursor is still near enough. A required key that is too far away
is an error. -/
def validKey (reader : TokenReader) : Option (Option PossibleKey) :=
  match reader.keys with
  | some key :: _ =>
    if reader.reaches key then some (some key)
    else if key.required then none
    else some none
  | _ => some none

/-! ## Between the tokens -/

/-- The next comment line after the end of a line, if only empty lines lie between. -/
def nextComment? : Nat → Cursor → Option Cursor
  | 0, _ => none
  | fuel + 1, cursor =>
    if cursor.atBreak then
      let next := cursor.skipBreak.skipWhile isBlank
      if next.isAt '#' then some next else nextComment? fuel next
    else
      none

/-- Skips a comment and the comment lines after it. -/
def skipComments : Nat → Cursor → Cursor
  | 0, cursor => cursor
  | fuel + 1, cursor =>
    let lineEnd := cursor.skipComment
    match nextComment? fuel lineEnd with
    | some next => skipComments fuel next
    | none => lineEnd

/-- Skips what may stand before a token. A tab may not stand where a key is allowed, and a new
line allows one. -/
def skipToToken (inFlow : Bool) : Nat → Bool → Cursor → Bool × Cursor
  | 0, keyAllowed, cursor => (keyAllowed, cursor)
  | fuel + 1, keyAllowed, cursor =>
    let atMark := cursor.column == 0 && cursor.isAt byteOrderMark
    let start := if atMark then cursor.skip 1 else cursor
    let unindented := start.skipWhile fun c =>
      c == ' ' || (c == '\t' && (inFlow || !keyAllowed))
    let next :=
      if unindented.isAt '#' then skipComments fuel unindented else unindented
    if next.atBreak then
      skipToToken inFlow fuel (keyAllowed || !inFlow) next.skipBreak
    else
      (keyAllowed, next)

/-- Skips a comment on the line of a token. -/
def skipLineComment (reader : TokenReader) : TokenReader :=
  let next := reader.cursor.skipWhile isBlank
  if next.isAt '#' then { reader with cursor := next.skipComment } else reader

/-! ## Reading one token -/

/-- Opens a flow collection. -/
def openFlow (reader : TokenReader) (kind : TokenKind) : Option TokenReader :=
  reader.rememberKey.map fun ready =>
    { ready.emitSkipping kind 1 true with keys := none :: ready.keys }

/-- Closes a flow collection. -/
def closeFlow (reader : TokenReader) (kind : TokenKind) : Option TokenReader :=
  reader.forgetKey.map fun ready =>
    { ready.emitSkipping kind 1 false with
      keys := if ready.inFlow then ready.keys.drop 1 else ready.keys }

def readBlockEntry (reader : TokenReader) : Option TokenReader :=
  if !reader.inFlow && !reader.keyAllowed then
    none
  else
    let opened := reader.indentTo reader.cursor.column reader.count reader.cursor.line
      .blockSequenceStart
    opened.forgetKey.map fun ready => ready.emitSkipping .blockEntry 1 true

def readKeyIndicator (reader : TokenReader) : Option TokenReader :=
  if !reader.inFlow && !reader.keyAllowed then
    none
  else
    let opened := reader.indentTo reader.cursor.column reader.count reader.cursor.line
      .blockMappingStart
    opened.forgetKey.map fun ready => ready.emitSkipping .key 1 (!reader.inFlow)

def readValueIndicator (reader : TokenReader) : Option TokenReader :=
  match reader.validKey with
  | none => none
  | some (some key) =>
    let announced := (reader.insert key.position key.line .key).indentTo key.column key.position
      key.line .blockMappingStart
    some ({ announced with keys := none :: announced.keys.drop 1 }.emitSkipping .value 1 false)
  | some none =>
    if !reader.inFlow && !reader.keyAllowed then
      none
    else
      let opened := reader.indentTo reader.cursor.column reader.count reader.cursor.line
        .blockMappingStart
      let cleared := { opened with keys := none :: opened.keys.drop 1 }
      some (cleared.emitSkipping .value 1 (!reader.inFlow))

/-- Emits a token that was read up to a cursor. -/
def emitUpTo (reader : TokenReader) (kind : TokenKind) (next : Cursor) (keyAllowed : Bool) :
    TokenReader :=
  { reader.emit kind with cursor := next, keyAllowed := keyAllowed }

/-- Reads a token that may be a key. -/
def readKeyToken (reader : TokenReader) (read? : Option (TokenKind × Cursor)) :
    Option TokenReader :=
  match reader.rememberKey, read? with
  | some ready, some (kind, next) => some (ready.emitUpTo kind next false)
  | _, _ => none

def readPlainToken (fuel : Nat) (reader : TokenReader) : Option TokenReader :=
  match reader.rememberKey, readPlain fuel reader.inFlow reader.minColumn reader.cursor with
  | some ready, some plain =>
    some (ready.emitUpTo (.scalar (Utf8.encode plain.text) true) plain.next plain.broken)
  | _, _ => none

def readBlockToken (fuel : Nat) (reader : TokenReader) : Option TokenReader :=
  match reader.forgetKey, readBlock fuel reader.minColumn reader.cursor with
  | some ready, some (text, next) =>
    some (ready.emitUpTo (.scalar (Utf8.encode text) false) next true)
  | _, _ => none

/-- Reads a token that ends all block collections. -/
def readTopLevel (reader : TokenReader) (read? : Option (TokenKind × Cursor)) :
    Option TokenReader :=
  match (reader.dedentTo none).forgetKey, read? with
  | some ready, some (kind, next) => some (ready.emitUpTo kind next false)
  | _, _ => none

/-- Whether the character at the cursor may begin a plain scalar. -/
def startsPlain (reader : TokenReader) (c : Char) : Bool :=
  let cursor := reader.cursor
  if c == '-' then
    !(cursor.ahead? 1).any isBlank
  else if c == '?' || c == ':' then
    !reader.inFlow && !cursor.endsWord 1
  else
    !(isBlank c || isBreak c || ",[]\x7b\x7d#&*!|>'\"%@`".toList.contains c)

/-- Reads the token that begins with the character at the cursor. -/
def readTokenAt (fuel : Nat) (reader : TokenReader) (c : Char) : Option TokenReader :=
  let cursor := reader.cursor
  if c == '[' then reader.openFlow .flowSequenceStart
  else if c == '\x7b' then reader.openFlow .flowMappingStart
  else if c == ']' then reader.closeFlow .flowSequenceEnd
  else if c == '\x7d' then reader.closeFlow .flowMappingEnd
  else if c == ',' then reader.forgetKey.map fun ready => ready.emitSkipping .flowEntry 1 true
  else if c == '-' && cursor.endsWord 1 then reader.readBlockEntry
  else if c == '?' && (reader.inFlow || cursor.endsWord 1) then reader.readKeyIndicator
  else if c == ':' && (reader.inFlow || cursor.endsWord 1) then reader.readValueIndicator
  else if c == '*' then
    reader.readKeyToken ((readAnchorName cursor).map fun (name, next) => (.alias name, next))
  else if c == '&' then
    reader.readKeyToken ((readAnchorName cursor).map fun (name, next) => (.anchor name, next))
  else if c == '!' then reader.readKeyToken (readTag fuel cursor)
  else if (c == '|' || c == '>') && !reader.inFlow then readBlockToken fuel reader
  else if c == '\'' || c == '"' then
    reader.readKeyToken ((readQuoted fuel cursor).map
      fun (text, next) => (.scalar (Utf8.encode text) false, next))
  else if reader.startsPlain c then readPlainToken fuel reader
  else none

/-- Whether a comment on the line of the latest token is part of that line. -/
def takesLineComment (reader : TokenReader) (c : Char) : Bool :=
  let isEntry := reader.tokens.head?.any fun token => token.kind = .blockEntry
  !isEntry && !((c == '|' || c == '>') && !reader.inFlow)

/-- Whether as many characters can be looked at from a cursor on. Behind the end of a text that
is complete there is nothing, which can be looked at. -/
def shows (reader : TokenReader) (cursor : Cursor) (count : Nat) : Bool :=
  reader.complete || count ≤ cursor.rest.length

/-- The number of characters that are looked at where a token begins, which is as many as a
line with a marker needs. -/
def lookahead : Nat :=
  4

/-- The greatest number of block collections inside of each other, and of flow collections. -/
def depthLimit : Nat :=
  10000

def withinDepth (reader : TokenReader) : Bool :=
  reader.indents.length ≤ depthLimit && reader.keys.length ≤ depthLimit + 1

/-- Reads the next token. There is none if the text is malformed or too deep, or if it breaks off
at the token or directly after it. The fuel is at least the number of characters that are left. -/
def step (fuel : Nat) (reader : TokenReader) : Option TokenReader :=
  let (keyAllowed, cursor) := skipToToken reader.inFlow fuel reader.keyAllowed reader.cursor
  let moved := { reader with cursor := cursor, keyAllowed := keyAllowed }
  let ready := moved.dedentTo (some cursor.column)
  let read? : Option TokenReader :=
    match cursor.head? with
    | none => ready.readTopLevel (some (.streamEnd, cursor))
    | some c =>
      if cursor.column == 0 && c == '%' then
        ready.readTopLevel (readDirective fuel cursor)
      else if cursor.atMarker '-' then
        ready.readTopLevel (some (.documentStart, cursor.skip 3))
      else if cursor.atMarker '.' then
        ready.readTopLevel (some (.documentEnd, cursor.skip 3))
      else
        (readTokenAt fuel ready c).map fun next =>
          if next.takesLineComment c then next.skipLineComment else next
  read?.filter fun next =>
    next.withinDepth && reader.shows cursor lookahead && reader.shows next.cursor 1

/-- The tokens that are certain when no token can be read any more. A token is only certain
once the two tokens after it are known and it can no longer turn out to be a key. -/
def certainTokens (reader : TokenReader) : List Token :=
  let undecided := reader.keys.filterMap fun key? => key?.filter reader.reaches
  let count := (undecided.map PossibleKey.position).foldl min (reader.count - 2)
  reader.tokens.reverse.take count

/-- Reads tokens up to the end of the text, or up to an error. -/
def run : Nat → TokenReader → List Token
  | 0, reader => reader.certainTokens ++ [⟨.malformed, reader.cursor.line⟩]
  | fuel + 1, reader =>
    match step fuel reader with
    | none => reader.certainTokens ++ [⟨.malformed, reader.cursor.line⟩]
    | some next =>
      if next.tokens.head?.any fun token => token.kind = .streamEnd then
        next.tokens.reverse
      else
        run fuel next

end TokenReader

/-- The tokens of a text. -/
def tokens (source : Source) : List Token :=
  TokenReader.run (source.chars.length + 3)
    { cursor := ⟨source.chars, 0, 0, 0⟩, complete := source.complete }

end Yaml
end PhpLint
