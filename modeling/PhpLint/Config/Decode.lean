import PhpLint.Config.Basic
import PhpLint.Text.Base64
import PhpLint.Text.Quoted
import PhpLint.Yaml.Node

namespace PhpLint

/-!
# From the nodes of a YAML document to settings

Settings say which fields of a configuration a document sets; what it does not
mention stays as it is. A value that does not fit its field is a problem: it is
noted, and the reading goes on. Some errors end the reading at once, and the
settings up to there remain.
-/

/-- What a document sets. -/
structure Settings where
  root? : Option Bytes := none
  extension? : Option Bytes := none
  ignoreFiles? : Option (List (Option Pattern)) := none

/-- The configuration after the fields of a document have been set. -/
def Config.apply (config : Config) (settings : Settings) : Config where
  root := settings.root?.getD config.root
  extension := settings.extension?.getD config.extension
  ignoreFiles := settings.ignoreFiles?.getD config.ignoreFiles

/-- What a value is read as. -/
inductive SettingType where
  | config
  | ignoreList
  | ignoreElement
  | text
deriving DecidableEq

def SettingType.name : SettingType → Bytes
  | .config => utf8 "config.Config"
  | .ignoreList => utf8 "[]*config.IgnoreFile"
  | .ignoreElement => utf8 "config.IgnoreFile"
  | .text => utf8 "string"

inductive SettingProblem where
  /-- A value of another type. The text is that of a scalar. -/
  | mismatch (line : Nat) (tag text : Bytes) (type : SettingType)
  | duplicateKey (line : Nat) (key : Bytes) (firstLine : Nat)
  | fieldRepeated (line : Nat) (field : Bytes) (type : SettingType)
deriving DecidableEq

namespace SettingProblem

/-- The beginning of a long text, and a short text as it is. -/
def excerpt (text : Bytes) : Bytes :=
  if 10 < text.length then text.take 7 ++ utf8 "..." else text

def message : SettingProblem → Bytes
  | .mismatch line tag text type =>
    let shown :=
      if tag = Yaml.Tag.seq || tag = Yaml.Tag.map then []
      else utf8 " `" ++ excerpt text ++ utf8 "`"
    utf8 "line " ++ decimal line ++ utf8 ": cannot unmarshal " ++ tag ++ shown ++
      utf8 " into " ++ type.name
  | .duplicateKey line key firstLine =>
    utf8 "line " ++ decimal line ++ utf8 ": mapping key " ++ Quoted.encode key ++
      utf8 " already defined at line " ++ decimal firstLine
  | .fieldRepeated line field type =>
    utf8 "line " ++ decimal line ++ utf8 ": field " ++ field ++ utf8 " already set in type " ++
      type.name

end SettingProblem

namespace Settings

open Yaml

/-! ## The nodes that are read -/

/-- How many nodes have been read, and how many of them through an alias. -/
structure Effort where
  nodes : Nat := 0
  aliased : Nat := 0

namespace Effort

/-- How many of 360 million nodes may be read through aliases: 99 in a hundred where there are few
nodes, 10 in a hundred where there are many, and in between the share falls evenly. -/
def allowance (nodes : Nat) : Nat :=
  if nodes ≤ 400000 then 356400000
  else if 4000000 ≤ nodes then 36000000
  else 356400000 - 89 * (nodes - 400000)

/-- Whether too many nodes are read through aliases. -/
def isExcessive (effort : Effort) : Bool :=
  100 < effort.aliased && 1000 < effort.nodes &&
    allowance effort.nodes * effort.nodes < 360000000 * effort.aliased

/-- Counts one more node, unless that is too much. -/
def count? (effort : Effort) (throughAlias : Bool) : Option Effort :=
  let next : Effort := ⟨effort.nodes + 1, effort.aliased + throughAlias.toNat⟩
  if next.isExcessive then none else some next

end Effort

/-- A node that is read, with the aliases that are being followed there. -/
structure Arrival where
  followed : List Nat
  effort : Effort
  node : Node

/-- Goes to a node, and through it if it is an alias. That fails if the alias is being followed
already, and where too many nodes are read through aliases. -/
def follow? (document : Document) (followed : List Nat) (effort : Effort) (node : Node) :
    Option Arrival :=
  match effort.count? (!followed.isEmpty) with
  | none => none
  | some counted =>
    match node with
    | .alias _ _ target serial =>
      if followed.contains serial then
        none
      else
        match document.anchored? target, counted.count? true with
        | some node, some counted => some ⟨serial :: followed, counted, node⟩
        | _, _ => none
    | node => some ⟨followed, counted, node⟩

/-- How far a reading has come. After it has been aborted nothing is read any more. -/
structure Progress (α : Type) where
  value : α
  problems : List SettingProblem := []
  aborted : Bool := false
  effort : Effort

namespace Progress

def map {α β : Type} (f : α → β) (progress : Progress α) : Progress β where
  value := f progress.value
  problems := progress.problems
  aborted := progress.aborted
  effort := progress.effort

/-- Goes on with the next step, unless the reading has been aborted. -/
def andThen {α β : Type} (progress : Progress α) (stopped : α → β)
    (next : α → Effort → Progress β) : Progress β :=
  if progress.aborted then
    progress.map stopped
  else
    let later := next progress.value progress.effort
    { later with problems := progress.problems ++ later.problems }

end Progress

/-! ## Single values -/

/-- What a scalar holds: nothing, or a text. -/
inductive Content where
  | null
  | text (value : Bytes)

/-- The content of a scalar. There is none if the text contradicts the tag. -/
def scalarContent? (tag text : Bytes) : Option Content :=
  if !Tag.admits tag text then none
  else if tag = Tag.null then some .null
  else if tag = Tag.binary then (Base64.decode? text).map .text
  else some (.text text)

/-- What comes up at a node. -/
inductive Sight where
  /-- Nothing that could be read. -/
  | lost
  | null (arrival : Arrival)
  | text (arrival : Arrival) (value : Bytes)
  | collection (arrival : Arrival)

def sight (document : Document) (followed : List Nat) (effort : Effort) (node : Node) : Sight :=
  match follow? document followed effort node with
  | none => .lost
  | some arrival =>
    match arrival.node with
    | .scalar _ tag text =>
      match scalarContent? tag text with
      | none => .lost
      | some .null => .null arrival
      | some (.text value) => .text arrival value
    | _ => .collection arrival

/-- What two equal keys have in common: the kind of node, and the text of a scalar or the name
of an alias. -/
def keyIdentity : Node → Nat × Bytes
  | .scalar _ _ text => (0, text)
  | .alias _ name _ _ => (1, name)
  | .sequence _ _ _ => (2, [])
  | .mapping _ _ _ => (3, [])

/-- A problem for every pair of equal keys. -/
def duplicateKeys : List Node → List SettingProblem
  | [] => []
  | key :: rest =>
    (rest.filter fun other => keyIdentity other == keyIdentity key).map
      (fun other => .duplicateKey other.line (keyIdentity other).2 key.line) ++
    duplicateKeys rest

def mismatch (node : Node) (type : SettingType) : SettingProblem :=
  match node with
  | .scalar line tag text => .mismatch line tag text type
  | .sequence line tag _ => .mismatch line tag [] type
  | .mapping line tag _ => .mismatch line tag [] type
  | .alias line _ _ _ => .mismatch line Tag.str [] type

/-- The equal keys of a mapping. -/
def equalKeys : Node → List SettingProblem
  | .mapping _ _ pairs => duplicateKeys (pairs.map Prod.fst)
  | _ => []

/-- The problems of a collection where another type is expected. Equal keys come first. -/
def collectionProblems (node : Node) (type : SettingType) : List SettingProblem :=
  if (equalKeys node).isEmpty then [mismatch node type] else equalKeys node

/-- Reads a text. Null leaves the text as it is. -/
def readText (document : Document) (followed : List Nat) (effort : Effort) (node : Node) :
    Progress (Option Bytes) :=
  match sight document followed effort node with
  | .lost => { value := none, aborted := true, effort := effort }
  | .null arrival => { value := none, effort := arrival.effort }
  | .text arrival value => { value := some value, effort := arrival.effort }
  | .collection arrival =>
    { value := none
      problems := collectionProblems arrival.node .text
      effort := arrival.effort }

/-! ## Mappings -/

/-- Whether a key asks for the pairs of another mapping. -/
def isMergeKey : Node → Bool
  | .scalar _ tag text => text = utf8 "<<" && tag = Tag.merge
  | _ => false

/-- How the value of a field is read: the fields that exist, and what a field does to the
value that is being built. -/
structure Fields (α : Type) where
  type : SettingType
  names : List Bytes
  assign : List Nat → Effort → Bytes → Node → α → Progress α

/-- What is known while the pairs of a mapping are read. -/
structure PairsState (α : Type) where
  value : α
  /-- The names that have been seen, if pairs are merged. -/
  taken? : Option (List Bytes)
  /-- The fields of this mapping that have been set. -/
  set : List Bytes := []
  merge? : Option Node := none

/-- Reads one pair. -/
def readPair {α : Type} (document : Document) (fields : Fields α) (followed : List Nat)
    (pair : Node × Node) (state : PairsState α) (effort : Effort) : Progress (PairsState α) :=
  if isMergeKey pair.1 then
    { value := { state with merge? := some pair.2 }, effort := effort }
  else
    (readText document followed effort pair.1).andThen (fun _ => state) fun name? effort =>
      match name? with
      | none => { value := state, effort := effort }
      | some name =>
        if state.taken?.any fun taken => taken.contains name then
          { value := state, effort := effort }
        else
          let seen := { state with taken? := state.taken?.map fun taken => name :: taken }
          if !fields.names.contains name then
            { value := seen, effort := effort }
          else if state.set.contains name then
            { value := seen
              problems := [.fieldRepeated pair.1.line name fields.type]
              effort := effort }
          else
            (fields.assign followed effort name pair.2 state.value).map fun value =>
              { seen with value := value, set := name :: seen.set }

def readPairs {α : Type} (document : Document) (fields : Fields α) (followed : List Nat) :
    List (Node × Node) → PairsState α → Effort → Progress (PairsState α)
  | [], state, effort => { value := state, effort := effort }
  | pair :: rest, state, effort =>
    (readPair document fields followed pair state effort).andThen id
      (readPairs document fields followed rest)

/-- Reads a key as a name that may be taken. Names are told apart, which cannot be done with
collections: one of them ends the reading, unless it has equal keys and is left out for that. -/
def readKeyName (document : Document) (followed : List Nat) (effort : Effort) (node : Node) :
    Progress (Option Bytes) :=
  match sight document followed effort node with
  | .lost => { value := none, aborted := true, effort := effort }
  | .null arrival => { value := none, effort := arrival.effort }
  | .text arrival value => { value := some value, effort := arrival.effort }
  | .collection arrival =>
    { value := none
      problems := equalKeys arrival.node
      aborted := (equalKeys arrival.node).isEmpty
      effort := arrival.effort }

/-- Reads the names of the keys of a mapping. -/
def readKeyNames (document : Document) (followed : List Nat) :
    List (Node × Node) → Effort → Progress (List Bytes)
  | [], effort => { value := [], effort := effort }
  | pair :: rest, effort =>
    (readKeyName document followed effort pair.1).andThen Option.toList fun name? effort =>
      (readKeyNames document followed rest effort).map fun names => name?.toList ++ names

/-- The names that merged pairs cannot have any more. In a mapping that is not itself merged they
are the names of its keys. -/
def readTaken (document : Document) (followed : List Nat) (pairs : List (Node × Node))
    (taken? : Option (List Bytes)) (effort : Effort) : Progress (List Bytes) :=
  match taken? with
  | some taken => { value := taken, effort := effort }
  | none => readKeyNames document followed pairs effort

/-- The mappings that a merge key refers to, if it refers to mappings only. -/
def mergeSources (document : Document) : Node → List Node × Bool
  | .sequence _ _ items =>
    let isSource (node : Node) : Bool :=
      match node with
      | .alias _ _ target _ => (document.anchored? target).any Node.isMapping
      | other => other.isMapping
    (items.takeWhile isSource, items.all isSource)
  | .alias line name target serial =>
    if (document.anchored? target).any Node.isMapping then
      ([.alias line name target serial], true)
    else
      ([], false)
  | node => if node.isMapping then ([node], true) else ([], false)

mutual

/-- Reads a mapping into a value, and then the mappings that are merged into it, whose fields
never replace one that is already there. -/
def readMapping {α : Type} (document : Document) (fields : Fields α) :
    Nat → List Nat → List (Node × Node) → Option (List Bytes) → α → Effort →
      Progress (α × Option (List Bytes))
  | 0, _, _, taken?, value, effort =>
    { value := (value, taken?), aborted := true, effort := effort }
  | fuel + 1, followed, pairs, taken?, value, effort =>
    let duplicates := duplicateKeys (pairs.map Prod.fst)
    if !duplicates.isEmpty then
      { value := (value, taken?), problems := duplicates, effort := effort }
    else
      (readPairs document fields followed pairs { value := value, taken? := taken? }
        effort).andThen (fun state => (state.value, state.taken?)) fun state effort =>
          match state.merge? with
          | none => { value := (state.value, state.taken?), effort := effort }
          | some merge =>
            (readTaken document followed pairs state.taken? effort).andThen
              (fun _ => (state.value, taken?)) fun taken effort =>
                let (sources, wellFormed) := mergeSources document merge
                let merged := readMerged document fields fuel followed sources taken state.value
                  effort
                { value := (merged.value.1, taken?.map fun _ => merged.value.2)
                  problems := merged.problems
                  aborted := merged.aborted || !wellFormed
                  effort := merged.effort }

/-- Reads mappings that are merged, one after another. -/
def readMerged {α : Type} (document : Document) (fields : Fields α) :
    Nat → List Nat → List Node → List Bytes → α → Effort → Progress (α × List Bytes)
  | 0, _, _, taken, value, effort =>
    { value := (value, taken), aborted := true, effort := effort }
  | _ + 1, _, [], taken, value, effort => { value := (value, taken), effort := effort }
  | fuel + 1, followed, source :: rest, taken, value, effort =>
    match follow? document followed effort source with
    | some ⟨nowFollowed, counted, .mapping _ _ pairs⟩ =>
      (readMapping document fields fuel nowFollowed pairs (some taken) value counted).andThen
        (fun state => (state.1, taken)) fun state effort =>
          readMerged document fields fuel followed rest (state.2.getD taken) state.1 effort
    | _ => { value := (value, taken), aborted := true, effort := effort }

end

/-! ## The list of ignored files -/

def patternFields (document : Document) : Fields Pattern where
  type := .ignoreElement
  names := [utf8 "pattern", utf8 "pattern_format"]
  assign := fun followed effort name node pattern =>
    (readText document followed effort node).map fun text? =>
      match text? with
      | none => pattern
      | some value =>
        if name = utf8 "pattern" then
          { pattern with text := value }
        else
          { pattern with format := value }

/-- Reads an element of the list. The inner option is the element, which may be null; without
the outer one there is no element. -/
def readElement (document : Document) (fuel : Nat) (followed : List Nat) (effort : Effort)
    (node : Node) : Progress (Option (Option Pattern)) :=
  match sight document followed effort node with
  | .lost => { value := none, aborted := true, effort := effort }
  | .null arrival => { value := some none, effort := arrival.effort }
  | .text arrival _ =>
    { value := none
      problems := [mismatch arrival.node .ignoreElement]
      effort := arrival.effort }
  | .collection arrival =>
    match arrival.node with
    | .mapping line tag pairs =>
      if !(equalKeys (.mapping line tag pairs)).isEmpty then
        { value := none
          problems := equalKeys (.mapping line tag pairs)
          effort := arrival.effort }
      else
        (readMapping document (patternFields document) fuel arrival.followed pairs none
          { text := [], format := [] } arrival.effort).map fun state => some (some state.1)
    | other =>
      { value := none, problems := [mismatch other .ignoreElement], effort := arrival.effort }

/-- Reads the elements of the list. If the reading is aborted, null stands for the elements
that are missing. -/
def readElements (document : Document) (fuel : Nat) (followed : List Nat) :
    List Node → Effort → Progress (List (Option Pattern))
  | [], effort => { value := [], effort := effort }
  | node :: rest, effort =>
    let element := readElement document fuel followed effort node
    if element.aborted then
      element.map fun _ => List.replicate (rest.length + 1) none
    else
      let later := readElements document fuel followed rest element.effort
      let padding := if later.aborted && element.value.isNone then [none] else []
      { value := element.value.toList ++ later.value ++ padding
        problems := element.problems ++ later.problems
        aborted := later.aborted
        effort := later.effort }

/-- Reads the list. Null empties it. -/
def readIgnoreList (document : Document) (fuel : Nat) (followed : List Nat) (effort : Effort)
    (node : Node) : Progress (Option (List (Option Pattern))) :=
  match sight document followed effort node with
  | .lost => { value := none, aborted := true, effort := effort }
  | .null arrival => { value := some [], effort := arrival.effort }
  | .text arrival _ =>
    { value := none, problems := [mismatch arrival.node .ignoreList], effort := arrival.effort }
  | .collection arrival =>
    match arrival.node with
    | .sequence _ _ items =>
      (readElements document fuel arrival.followed items arrival.effort).map some
    | other =>
      { value := none
        problems := collectionProblems other .ignoreList
        effort := arrival.effort }

/-! ## The document -/

def configFields (document : Document) (fuel : Nat) : Fields Settings where
  type := .config
  names := [utf8 "root", utf8 "extension", utf8 "ignore_files"]
  assign := fun followed effort name node settings =>
    if name = utf8 "ignore_files" then
      (readIgnoreList document fuel followed effort node).map fun list? =>
        match list? with
        | none => settings
        | some elements => { settings with ignoreFiles? := some elements }
    else
      (readText document followed effort node).map fun text? =>
        match text? with
        | none => settings
        | some value =>
          if name = utf8 "root" then
            { settings with root? := some value }
          else
            { settings with extension? := some value }

/-- Reads the settings of a document. The document itself counts as a node. -/
def ofDocument (fuel : Nat) (document : Document) : Progress Settings :=
  match sight document [] { nodes := 1 } document.root with
  | .lost => { value := {}, aborted := true, effort := {} }
  | .null arrival => { value := {}, effort := arrival.effort }
  | .text arrival _ =>
    { value := {}, problems := [mismatch arrival.node .config], effort := arrival.effort }
  | .collection arrival =>
    match arrival.node with
    | .mapping _ _ pairs =>
      (readMapping document (configFields document fuel) fuel arrival.followed pairs none {}
        arrival.effort).map Prod.fst
    | other => { value := {}, problems := [mismatch other .config], effort := arrival.effort }

end Settings
end PhpLint
