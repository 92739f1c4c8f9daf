import Redraft.Yaml.Token
import Redraft.Yaml.Number
import Redraft.Yaml.Moment

/-!
The document that tokens make: scalars, lists and mappings, each with the tag that says what it
stands for. Nodes have numbers, so that one node can stand in several places by its aliases, also
inside itself.
-/
namespace Redraft.Yaml

/-- What a node stands for. -/
inductive Tag where
  | null
  | bool
  | integer
  | float
  | binary
  | moment
  | pairs
  | set
  | text
  | list
  | map
  /-- As a key: the fields of the value belong to the mapping. -/
  | merge
  | value
  | other (uri : Text)
  deriving DecidableEq

namespace Tag

def base : Text := "tag:yaml.org,2002:"

def standard : List (Text × Tag) := [
  ("null", null), ("bool", bool), ("int", integer), ("float", float), ("binary", binary),
  ("timestamp", moment), ("omap", pairs), ("pairs", pairs), ("set", set), ("str", text),
  ("seq", list), ("map", map), ("merge", merge), ("value", value)]

def ofUri (uri : Text) : Tag :=
  ((Text.dropStart? base uri).bind fun name => standard.lookup name).getD (other uri)

def nullWords : List Text := ["", "~", "null", "Null", "NULL"]

def boolWords : List Text := [
  "yes", "Yes", "YES", "no", "No", "NO", "true", "True", "TRUE", "false", "False", "FALSE",
  "on", "On", "ON", "off", "Off", "OFF"]

/-- Marks of the notation itself, which stand for nothing. -/
def notationMarks : List Text := ["!", "&", "*"]

/-- What a plain scalar stands for, by its form. A line break behind the form does no harm, but one
alone is a text. -/
def ofForm (t : Text) : Tag :=
  let form := dropLastBreak t
  if boolWords.contains form then bool
  else if isFloatForm form then float
  else if isIntegerForm form then integer
  else if form = Text.ofString "<<" then merge
  else if nullWords.contains form && t ≠ [Text.newline] then null
  else if isMomentForm form then moment
  else if form = Text.ofString "=" then value
  else if notationMarks.contains form then other (base ++ Text.ofString "yaml")
  else text

end Tag

/-- A part of a document; its own parts are given by their numbers. -/
inductive Node where
  | scalar (tag : Tag) (t : Text)
  | list (tag : Tag) (items : List Nat)
  | map (tag : Tag) (fields : List (Nat × Nat))

namespace Node

def tag : Node → Tag
  | scalar t _ => t
  | list t _ => t
  | map t _ => t

def withTag (tag : Tag) : Node → Node
  | scalar _ t => scalar tag t
  | list _ items => list tag items
  | map _ fields => map tag fields

end Node

/-- A reading of tokens. -/
structure Reading where
  tokens : List Token
  nodes : Array Node
  anchors : List (Text × Nat)
  handles : List (Text × Text)
  /-- How many more collections can be open. -/
  room : Nat

abbrev Reader (α : Type) := StateT Reading (Except ConfigError) α

namespace Reader

def peek : Reader (Option Token) := do
  match (← get).tokens.head? with
  | some (.fault e) => throw e
  | next => return next

def skip : Reader Unit := modify fun r => { r with tokens := r.tokens.drop 1 }

def unexpected {α : Type} : Reader α := throw .malformed

def next : Reader (Option Token) := do
  skip
  peek

def anchor? : Reader (Option Text) := do
  match ← peek with
  | some (.anchor name) => skip; return some name
  | _ => return none

def tag? : Reader (Option (Option Text × Text)) := do
  match ← peek with
  | some (.tag handle suffix) => skip; return some (handle, suffix)
  | _ => return none

/-- A tag with its handle standing for what it was declared as. -/
def resolved? : Option (Option Text × Text) → Reader (Option Text)
  | none => return none
  | some (none, suffix) => return some suffix
  | some (some handle, suffix) => do
    match (← get).handles.lookup handle with
    | some start => return some (start ++ suffix)
    | none => throw .malformed

def properties : Reader (Option Text × Option Text) := do
  match ← anchor? with
  | some a => return (some a, ← resolved? (← tag?))
  | none =>
    match ← tag? with
    | none => return (none, none)
    | some tag =>
      let anchor ← anchor?
      return (anchor, ← resolved? (some tag))

def nonspecific : Text := "!"

def collectionTag (standard : Tag) : Option Text → Tag
  | some uri => if uri = nonspecific then standard else .ofUri uri
  | none => standard

def scalarTag (tag : Option Text) (isPlain : Bool) (t : Text) : Tag :=
  match tag with
  | some uri => if uri = nonspecific then .ofForm t else .ofUri uri
  | none => if isPlain then .ofForm t else .text

def add (anchor : Option Text) (n : Node) : Reader Nat := do
  let r ← get
  let i := r.nodes.size
  let known := match anchor with
    | some name => (name, i) :: r.anchors
    | none => r.anchors
  set { r with nodes := r.nodes.push n, anchors := known }
  return i

def empty : Reader Nat := add none (.scalar .null [])

/-- A new collection: its anchor stands for it while its parts are read. -/
def collection {α : Type} (anchor : Option Text) (make : List α → Node)
    (parts : Reader (List α)) : Reader Nat := do
  let i ← add anchor (make [])
  let room := (← get).room
  if room = 0 then throw .tooDeep
  modify fun r => { r with room := room - 1 }
  let found ← parts
  modify fun r => { r with nodes := r.nodes.setIfInBounds i (make found), room := room }
  return i

/-- Where a block entry or field stands: what comes next if nothing is behind its mark. -/
inductive Place where
  | list
  | bareList
  | field

def Place.isEmptyBefore : Place → Option Token → Bool
  | _, some .blockEnd => true
  | list, some .blockEntry => true
  | bareList, some .blockEntry => true
  | bareList, some .key => true
  | bareList, some .value => true
  | field, some .key => true
  | field, some .value => true
  | _, _ => false

mutual

/-- A node. Blocks start only where they may, and a list without an indentation of its own only as
the value or key of a field. -/
def node : Nat → (inBlock bareList : Bool) → Reader Nat
  | 0, _, _ => unexpected
  | fuel + 1, inBlock, bareList => do
    if let some (.alias name) ← peek then
      skip
      match (← get).anchors.lookup name with
      | some i => return i
      | none => throw .malformed
    let (anchor, tag) ← properties
    let start ← peek
    let known := (← get).anchors
    if anchor.any fun name => (known.lookup name).isSome then throw .malformed
    let listOf (items : Reader (List Nat)) : Reader Nat :=
      collection anchor (.list (collectionTag .list tag)) items
    let mapOf (fields : Reader (List (Nat × Nat))) : Reader Nat :=
      collection anchor (.map (collectionTag .map tag)) fields
    let absent : Reader Nat :=
      if anchor.isNone && tag.isNone then unexpected
      else add anchor (.scalar (scalarTag tag true []) [])
    match start with
    | some (.scalar t isPlain) =>
      skip
      add anchor (.scalar (scalarTag tag isPlain t) t)
    | some .flowListStart => listOf do skip; flowItems fuel true
    | some .flowMapStart => mapOf do skip; flowFields fuel true
    | some .blockEntry => if bareList then listOf (bareItems fuel) else absent
    | some .blockListStart => if inBlock then listOf do skip; blockItems fuel else absent
    | some .blockMapStart => if inBlock then mapOf do skip; blockFields fuel else absent
    | _ => absent

def entry : Nat → Place → Reader Nat
  | 0, _ => unexpected
  | fuel + 1, place => do
    if place.isEmptyBefore (← next) then empty
    else node fuel true (match place with | .field => true | _ => false)

def blockItems : Nat → Reader (List Nat)
  | 0 => unexpected
  | fuel + 1 => do
    match ← peek with
    | some .blockEntry =>
      let n ← entry fuel .list
      return n :: (← blockItems fuel)
    | some .blockEnd => skip; return []
    | _ => unexpected

/-- The entries of a list that is indented as the mapping it is in. -/
def bareItems : Nat → Reader (List Nat)
  | 0 => unexpected
  | fuel + 1 => do
    match ← peek with
    | some .blockEntry =>
      let n ← entry fuel .bareList
      return n :: (← bareItems fuel)
    | _ => return []

def blockFields : Nat → Reader (List (Nat × Nat))
  | 0 => unexpected
  | fuel + 1 => do
    match ← peek with
    | some .key =>
      let k ← entry fuel .field
      let v ← match ← peek with
        | some .value => entry fuel .field
        | _ => empty
      return (k, v) :: (← blockFields fuel)
    | some .blockEnd => skip; return []
    | _ => unexpected

def flowKey : Nat → (close : Token) → Reader Nat
  | 0, _ => unexpected
  | fuel + 1, close => do
    let t ← next
    if t = some .value || t = some .flowEntry || t = some close then empty
    else node fuel false false

def flowValue : Nat → (close : Token) → Reader Nat
  | 0, _ => unexpected
  | fuel + 1, close => do
    match ← peek with
    | some .value =>
      let t ← next
      if t = some .flowEntry || t = some close then empty else node fuel false false
    | _ => empty

def flowItems : Nat → (isFirst : Bool) → Reader (List Nat)
  | 0, _ => unexpected
  | fuel + 1, isFirst => do
    if let some .flowListEnd ← peek then skip; return []
    if !isFirst then
      match ← peek with
      | some .flowEntry => skip
      | _ => unexpected
    match ← peek with
    | some .key =>
      let field ← collection none (.map .map) do
        let k ← flowKey fuel .flowListEnd
        let v ← flowValue fuel .flowListEnd
        discard peek
        return [(k, v)]
      return field :: (← flowItems fuel false)
    | some .flowListEnd => skip; return []
    | _ =>
      let n ← node fuel false false
      return n :: (← flowItems fuel false)

def flowFields : Nat → (isFirst : Bool) → Reader (List (Nat × Nat))
  | 0, _ => unexpected
  | fuel + 1, isFirst => do
    if let some .flowMapEnd ← peek then skip; return []
    if !isFirst then
      match ← peek with
      | some .flowEntry => skip
      | _ => unexpected
    match ← peek with
    | some .key =>
      let k ← flowKey fuel .flowMapEnd
      let v ← flowValue fuel .flowMapEnd
      return (k, v) :: (← flowFields fuel false)
    | some .flowMapEnd => skip; return []
    | _ =>
      let k ← node fuel false false
      discard peek
      let v ← empty
      return (k, v) :: (← flowFields fuel false)

end

def standardHandles : List (Text × Text) := [("!", "!"), ("!!", Tag.base)]

/-- The directives before a document: at most one version, and handles declared once each. -/
def directives : Nat → (versioned : Bool) → List (Text × Text) → Reader (List (Text × Text))
  | 0, _, _ => unexpected
  | fuel + 1, versioned, handles => do
    match ← peek with
    | some (.directive (.version major)) =>
      if versioned || major ≠ 1 then throw .malformed
      skip
      directives fuel true handles
    | some (.directive (.handle name start)) =>
      if (handles.lookup name).isSome then throw .malformed
      skip
      directives fuel versioned ((name, start) :: handles)
    | some (.directive .unknown) => skip; directives fuel versioned handles
    | _ => return handles

def explicitStart : Reader Unit := do
  let declared ← directives ((← get).tokens.length + 1) false []
  match ← peek with
  | some .documentStart =>
    skip
    modify fun r => { r with handles := declared ++ standardHandles }
  | _ => unexpected

def content : Reader Nat := do
  match ← peek with
  | none | some (.directive _) | some .documentStart | some .documentEnd => empty
  | _ => node (4 * (← get).tokens.length + 4) true false

def skipEnds : Nat → Reader Unit
  | 0 => return
  | fuel + 1 => do
    if let some .documentEnd ← peek then
      skip
      skipEnds fuel

def single : Reader (Option Nat) := do
  match ← peek with
  | none => return none
  | first =>
    let explicit := match first with
      | some (.directive _) | some .documentStart => true
      | _ => false
    if explicit then explicitStart
    let n ← if explicit then content else node (4 * (← get).tokens.length + 4) true false
    skipEnds ((← get).tokens.length + 1)
    match ← peek with
    | none => return some n
    | _ =>
      explicitStart
      unexpected

end Reader

/-- A document: its nodes and the number of the outermost one. -/
structure Document where
  nodes : Array Node
  root : Nat

def document (room : Nat) (t : Text) : Except ConfigError (Option Document) :=
  (Reader.single.run ⟨tokens t, #[], [], Reader.standardHandles, room⟩).map fun (root, r) =>
    root.map fun n => ⟨r.nodes, n⟩

end Redraft.Yaml
