import PhpLint.Yaml.Tag
import PhpLint.Yaml.Token

namespace PhpLint
namespace Yaml

/-!
# The nodes of a YAML document

An anchor names the node that follows it, and an alias stands for the node that
was last given its name. A node may hold an alias of itself, so the nodes with
anchors are kept in a table, and an alias only holds the number of its node.
-/

inductive Node where
  | scalar (line : Nat) (tag text : Bytes)
  | sequence (line : Nat) (tag : Bytes) (items : List Node)
  | mapping (line : Nat) (tag : Bytes) (pairs : List (Node × Node))
  /-- An alias with the number of its node and a number of its own. -/
  | alias (line : Nat) (name : Bytes) (target serial : Nat)

namespace Node

/-- The line of a node, counted from one. -/
def line : Node → Nat
  | .scalar line _ _ => line
  | .sequence line _ _ => line
  | .mapping line _ _ => line
  | .alias line _ _ _ => line

def isMapping : Node → Bool
  | .mapping _ _ _ => true
  | _ => false

end Node

structure Document where
  root : Node
  anchored : List (Nat × Node) := []

namespace Document

/-- The node with a number. -/
def anchored? (document : Document) (target : Nat) : Option Node :=
  (document.anchored.find? fun entry => entry.1 = target).map Prod.snd

end Document

/-! ## Reading nodes from tokens -/

structure NodeReader where
  tokens : List Token
  handles : List (Bytes × Bytes) := []
  /-- Which number a name stands for, latest first. -/
  names : List (Bytes × Nat) := []
  anchorCount : Nat := 0
  aliasCount : Nat := 0
  anchored : List (Nat × Node) := []

namespace NodeReader

/-- The next token. The end of the text repeats. -/
def peek (reader : NodeReader) : Token :=
  reader.tokens.headD ⟨.streamEnd, 0⟩

def kind (reader : NodeReader) : TokenKind :=
  reader.peek.kind

def advance (reader : NodeReader) : NodeReader :=
  { reader with tokens := reader.tokens.drop 1 }

/-- The line of the next token, counted from one. -/
def line (reader : NodeReader) : Nat :=
  reader.peek.line + 1

/-- What a node may have in front of it. -/
structure Properties where
  anchor? : Option Bytes := none
  tag? : Option Bytes := none

def Properties.isEmpty (properties : Properties) : Bool :=
  properties.anchor?.isNone && properties.tag?.isNone

/-- The whole tag of a handle and a suffix. -/
def expandTag? (reader : NodeReader) (handle suffix : Bytes) : Option Bytes :=
  if handle.isEmpty then
    some suffix
  else
    (reader.handles.find? fun entry => entry.1 = handle).map fun entry => entry.2 ++ suffix

/-- Reads an anchor and a tag, in either order. -/
def readProperties (reader : NodeReader) : Option (Properties × NodeReader) :=
  match reader.kind with
  | .anchor name =>
    match reader.advance.kind with
    | .tag handle suffix =>
      (reader.expandTag? handle suffix).map
        fun tag => (⟨some name, some tag⟩, reader.advance.advance)
    | _ => some (⟨some name, none⟩, reader.advance)
  | .tag handle suffix =>
    match reader.expandTag? handle suffix with
    | none => none
    | some tag =>
      match reader.advance.kind with
      | .anchor name => some (⟨some name, some tag⟩, reader.advance.advance)
      | _ => some (⟨none, some tag⟩, reader.advance)
  | _ => some ({}, reader)

/-- The tag of a node, if it is given and not just an exclamation mark. -/
def Properties.givenTag? (properties : Properties) : Option Bytes :=
  (properties.tag?.filter fun tag => !tag.isEmpty && tag != utf8 "!").map Tag.short

/-- A scalar. A plain scalar without a tag has the tag it looks like. -/
def scalarNode (line : Nat) (properties : Properties) (text : Bytes) (isPlain : Bool) : Node :=
  let implied :=
    if !isPlain then Tag.str
    else if text = utf8 "<<" then Tag.merge
    else Tag.looksLike true text
  .scalar line (properties.givenTag?.getD implied) text

def emptyNode (line : Nat) : Node :=
  scalarNode line {} [] true

/-- Gives the next number to the name of a node that is about to be read. -/
def declare (reader : NodeReader) (properties : Properties) : NodeReader :=
  match properties.anchor? with
  | none => reader
  | some name =>
    { reader with
      names := (name, reader.anchorCount) :: reader.names
      anchorCount := reader.anchorCount + 1 }

/-- Puts a node that has been read into the table. `declared` is the reader from before. -/
def define (declared : NodeReader) (properties : Properties) (node : Node)
    (reader : NodeReader) : Node × NodeReader :=
  match properties.anchor? with
  | none => (node, reader)
  | some _ => (node, { reader with anchored := (declared.anchorCount, node) :: reader.anchored })

/-- Whether the next token is one of the given ones. -/
def isAtOne (reader : NodeReader) (kinds : List TokenKind) : Bool :=
  kinds.contains reader.kind

mutual

/-- Reads a node. Block collections are only allowed in a block, and a sequence without
indentation of its own only in a mapping. -/
def readNode : Nat → Bool → Bool → NodeReader → Option (Node × NodeReader)
  | 0, _, _, _ => none
  | fuel + 1, inBlock, inMapping, reader =>
    match reader.kind with
    | .alias name =>
      (reader.names.find? fun entry => entry.1 = name).map fun entry =>
        (.alias reader.line name entry.2 reader.aliasCount,
          { reader.advance with aliasCount := reader.aliasCount + 1 })
    | _ =>
      match reader.readProperties with
      | none => none
      | some (properties, start) =>
        let line := reader.line
        let inside := start.declare properties
        let sequence (items : List Node) (next : NodeReader) : Node × NodeReader :=
          define start properties
            (.sequence line (properties.givenTag?.getD Tag.seq) items) next
        let mapping (pairs : List (Node × Node)) (next : NodeReader) : Node × NodeReader :=
          define start properties (.mapping line (properties.givenTag?.getD Tag.map) pairs) next
        match start.kind with
        | .scalar text isPlain =>
          some (define start properties (scalarNode line properties text isPlain) inside.advance)
        | .flowSequenceStart =>
          (readFlowItems fuel true [] inside.advance).map
            fun (items, next) => sequence items next
        | .flowMappingStart =>
          (readFlowPairs fuel true [] inside.advance).map fun (pairs, next) => mapping pairs next
        | .blockEntry =>
          if inMapping then
            (readLooseItems fuel [] inside).map fun (items, next) => sequence items next
          else if properties.isEmpty then
            none
          else
            some (define start properties (scalarNode line properties [] true) inside)
        | .blockSequenceStart =>
          if inBlock then
            (readBlockItems fuel [] inside.advance).map fun (items, next) => sequence items next
          else if properties.isEmpty then
            none
          else
            some (define start properties (scalarNode line properties [] true) inside)
        | .blockMappingStart =>
          if inBlock then
            (readBlockPairs fuel [] inside.advance).map fun (pairs, next) => mapping pairs next
          else if properties.isEmpty then
            none
          else
            some (define start properties (scalarNode line properties [] true) inside)
        | .malformed => none
        | _ =>
          if properties.isEmpty then
            none
          else
            some (define start properties (scalarNode line properties [] true) inside)

/-- Reads the entries of a block sequence. -/
def readBlockItems : Nat → List Node → NodeReader → Option (List Node × NodeReader)
  | 0, _, _ => none
  | fuel + 1, items, reader =>
    match reader.kind with
    | .blockEnd => some (items.reverse, reader.advance)
    | .blockEntry =>
      let next := reader.advance
      if next.isAtOne [.blockEntry, .blockEnd] then
        readBlockItems fuel (emptyNode reader.line :: items) next
      else
        match readNode fuel true false next with
        | none => none
        | some (item, rest) => readBlockItems fuel (item :: items) rest
    | _ => none

/-- Reads the entries of a sequence that is indented like the mapping around it. -/
def readLooseItems : Nat → List Node → NodeReader → Option (List Node × NodeReader)
  | 0, _, _ => none
  | fuel + 1, items, reader =>
    match reader.kind with
    | .blockEntry =>
      let next := reader.advance
      if next.isAtOne [.blockEntry, .key, .value, .blockEnd] then
        readLooseItems fuel (emptyNode reader.line :: items) next
      else
        match readNode fuel true false next with
        | none => none
        | some (item, rest) => readLooseItems fuel (item :: items) rest
    | .malformed => none
    | _ => some (items.reverse, reader)

/-- Reads a value of a block mapping. A missing value is empty. -/
def readBlockValue : Nat → NodeReader → Option (Node × NodeReader)
  | 0, _ => none
  | fuel + 1, reader =>
    match reader.kind with
    | .value =>
      let next := reader.advance
      if next.isAtOne [.key, .value, .blockEnd] then
        some (emptyNode reader.line, next)
      else
        readNode fuel true true next
    | .malformed => none
    | _ => some (emptyNode reader.line, reader)

/-- Reads the pairs of a block mapping. -/
def readBlockPairs : Nat → List (Node × Node) → NodeReader →
    Option (List (Node × Node) × NodeReader)
  | 0, _, _ => none
  | fuel + 1, pairs, reader =>
    match reader.kind with
    | .blockEnd => some (pairs.reverse, reader.advance)
    | .key =>
      let next := reader.advance
      let key? :=
        if next.isAtOne [.key, .value, .blockEnd] then
          some (emptyNode reader.line, next)
        else
          readNode fuel true true next
      match key? with
      | none => none
      | some (key, afterKey) =>
        match readBlockValue fuel afterKey with
        | none => none
        | some (value, rest) => readBlockPairs fuel ((key, value) :: pairs) rest
    | _ => none

/-- Reads a value in a flow collection. A missing value is empty. -/
def readFlowValue : Nat → List TokenKind → NodeReader → Option (Node × NodeReader)
  | 0, _, _ => none
  | fuel + 1, ends, reader =>
    match reader.kind with
    | .value =>
      let next := reader.advance
      if next.isAtOne ends then
        some (emptyNode reader.line, next)
      else
        readNode fuel false false next
    | .malformed => none
    | _ => some (emptyNode reader.line, reader)

/-- Reads the items of a flow sequence. A pair without braces is a mapping of its own. -/
def readFlowItems : Nat → Bool → List Node → NodeReader → Option (List Node × NodeReader)
  | 0, _, _, _ => none
  | fuel + 1, first, items, reader =>
    if reader.kind = .flowSequenceEnd then
      some (items.reverse, reader.advance)
    else if !first && reader.kind != .flowEntry then
      none
    else
      let start := if first then reader else reader.advance
      match start.kind with
      | .flowSequenceEnd => some (items.reverse, start.advance)
      | .key =>
        let next := start.advance
        let key? :=
          if next.isAtOne [.value, .flowEntry, .flowSequenceEnd] then
            some (emptyNode start.line, next.advance)
          else
            readNode fuel false false next
        match key? with
        | none => none
        | some (key, afterKey) =>
          match readFlowValue fuel [.flowEntry, .flowSequenceEnd] afterKey with
          | none => none
          | some (value, rest) =>
            readFlowItems fuel false (.mapping start.line Tag.map [(key, value)] :: items) rest
      | _ =>
        match readNode fuel false false start with
        | none => none
        | some (item, rest) => readFlowItems fuel false (item :: items) rest

/-- Reads the pairs of a flow mapping. A key alone has an empty value. -/
def readFlowPairs : Nat → Bool → List (Node × Node) → NodeReader →
    Option (List (Node × Node) × NodeReader)
  | 0, _, _, _ => none
  | fuel + 1, first, pairs, reader =>
    if reader.kind = .flowMappingEnd then
      some (pairs.reverse, reader.advance)
    else if !first && reader.kind != .flowEntry then
      none
    else
      let start := if first then reader else reader.advance
      match start.kind with
      | .flowMappingEnd => some (pairs.reverse, start.advance)
      | .key =>
        let next := start.advance
        let key? :=
          if next.isAtOne [.value, .flowEntry, .flowMappingEnd] then
            some (emptyNode start.line, next)
          else
            readNode fuel false false next
        match key? with
        | none => none
        | some (key, afterKey) =>
          match readFlowValue fuel [.flowEntry, .flowMappingEnd] afterKey with
          | none => none
          | some (value, rest) => readFlowPairs fuel false ((key, value) :: pairs) rest
      | _ =>
        match readNode fuel false false start with
        | none => none
        | some (key, rest) =>
          readFlowPairs fuel false ((key, emptyNode start.line) :: pairs) rest

end

/-- The handles of tags that need no directive. -/
def standardHandles : List (Bytes × Bytes) :=
  [(utf8 "!", utf8 "!"), (utf8 "!!", Tag.standardBeginning)]

/-- Reads the directives before a document. -/
def readDirectives : Nat → Bool → NodeReader → Option NodeReader
  | 0, _, _ => none
  | fuel + 1, versioned, reader =>
    match reader.kind with
    | .versionDirective major minor =>
      if versioned || major != 1 || minor != 1 then
        none
      else
        readDirectives fuel true reader.advance
    | .tagDirective handle expansion =>
      if reader.handles.any fun entry => entry.1 = handle then
        none
      else
        readDirectives fuel versioned
          { reader.advance with handles := reader.handles ++ [(handle, expansion)] }
    | _ => some { reader with handles := reader.handles ++ standardHandles }

/-- The document of a root node. Its last token is only certain if the next one can be read. -/
def finish (read? : Option (Node × NodeReader)) : Option (Option Document) :=
  match read? with
  | none => none
  | some (root, rest) =>
    if rest.kind = .malformed then none else some (some ⟨root, rest.anchored⟩)

/-- Reads the first document. There is none in an empty text. -/
def readDocument (reader : NodeReader) : Option (Option Document) :=
  let fuel := 4 * reader.tokens.length + 8
  match reader.kind with
  | .streamEnd => some none
  | .versionDirective _ _ | .tagDirective _ _ | .documentStart =>
    match readDirectives fuel false reader with
    | none => none
    | some afterDirectives =>
      if afterDirectives.kind = .documentStart then
        let start := afterDirectives.advance
        match start.kind with
        | .versionDirective _ _ | .tagDirective _ _ | .documentStart | .documentEnd |
          .streamEnd => finish (some (emptyNode start.line, start))
        | _ => finish (readNode fuel true false start)
      else
        none
  | _ => finish (readNode fuel true false { reader with handles := standardHandles })

end NodeReader

/-- The first document of a YAML text. The result is `none` for a text that is not YAML. -/
def readDocument (bytes : Bytes) : Option (Option Document) :=
  NodeReader.readDocument { tokens := tokens (Source.ofBytes bytes) }

end Yaml
end PhpLint
