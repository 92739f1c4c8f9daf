import Redraft.Data
import Redraft.Yaml.Node

/-!
The value of a document. Parts are made level by level from the outside in, and the first that cannot
be made is the error; a part that stands in several places is made once. What is merged into a mapping
is moved when the mapping is made, and counts for all that is made later. A document may contain
itself, and its value is seen down to a fixed depth.
-/
namespace Redraft.Yaml

def sextet? : CodePoint → Option Nat
  | .scalar c =>
    if 'A' ≤ c ∧ c ≤ 'Z' then some (c.toNat - 'A'.toNat)
    else if 'a' ≤ c ∧ c ≤ 'z' then some (c.toNat - 'a'.toNat + 26)
    else if '0' ≤ c ∧ c ≤ '9' then some (c.toNat - '0'.toNat + 52)
    else if c = '+' then some 62
    else if c = '/' then some 63
    else none
  | .surrogate _ => none

/-- Bytes in base 64. `place` counts the sextets of a group of four, `carry` holds the bits that make
no byte yet, and `pads` the marks that fill up a group; what is no sextet is skipped. -/
def unbase64? (place carry pads : Nat) : Text → Option Bytes
  | [] => if place = 0 then some [] else none
  | c :: rest =>
    if c = .scalar '=' then
      if 2 ≤ place && 3 ≤ place + pads then some []
      else unbase64? place carry (if 2 ≤ place then pads + 1 else pads) rest
    else match sextet? c with
      | none => unbase64? place carry pads rest
      | some n =>
        let byte (k : Nat) : UInt8 := k.toUInt8
        match place with
        | 0 => unbase64? 1 n 0 rest
        | 1 => (unbase64? 2 (n % 16) 0 rest).map (byte (carry * 4 + n / 16) :: ·)
        | 2 => (unbase64? 3 (n % 4) 0 rest).map (byte (carry * 16 + n / 4) :: ·)
        | _ => (unbase64? 0 0 0 rest).map (byte (carry * 64 + n) :: ·)

def binaryValue (t : Text) : Except ConfigError Data :=
  if t.all (·.value < 0x80) then
    match unbase64? 0 0 0 t with
    | some b => .ok (.bytes b)
    | none => .error .malformed
  else .error .malformed

def truthWords : List (Text × Bool) :=
  [("yes", true), ("no", false), ("true", true), ("false", false), ("on", true), ("off", false)]

def truthValue (t : Text) : Except ConfigError Data :=
  let word := Text.lower t
  match truthWords.lookup word with
  | some b => .ok (.bool b)
  | none => .error (.unknownTruth word)

def scalarValue (t : Text) : Tag → Except ConfigError Data
  | .null => .ok .null
  | .bool => truthValue t
  | .integer => (integerValue t).map .int
  | .float => (floatValue t).map .float
  | .binary => binaryValue t
  | .moment => momentValue t
  | .text => .ok (.text t)
  | _ => .error .malformed

/-- A value whose parts are given by the numbers of their nodes. -/
inductive Made where
  | scalar (d : Data)
  | list (items : List Nat)
  | pairs (items : List (Nat × Nat))
  | set (keys : List Nat)
  | map (fields : List (Nat × Nat))

/-- The making of a value: nodes as they are by now, what has been made of them, and the collections
of the next level, the last one first. -/
structure Making where
  nodes : Array Node
  made : Array (Option Made)
  waiting : List Nat

abbrev Maker (α : Type) := StateT Making (Except ConfigError) α

namespace Maker

def node (i : Nat) : Maker Node := do return (← get).nodes.getD i (.scalar .null [])

def made? (i : Nat) : Maker (Option Made) := do return ((← get).made[i]?).join

def setNode (i : Nat) (n : Node) : Maker Unit :=
  modify fun m => { m with nodes := m.nodes.setIfInBounds i n }

def setMade (i : Nat) (v : Made) : Maker Unit :=
  modify fun m => { m with made := m.made.setIfInBounds i (some v) }

def valueField? : List (Nat × Nat) → Maker (Option Nat)
  | [] => return none
  | (k, v) :: rest => do
    if (← node k).tag = .value then return some v else valueField? rest

def scalarText : Nat → Nat → Maker Text
  | 0, _ => throw .endless
  | fuel + 1, i => do
    match ← node i with
    | .scalar _ t => return t
    | .list .. => throw .malformed
    | .map _ fields =>
      match ← valueField? fields with
      | some v => scalarText fuel v
      | none => throw .malformed

def scalar (i : Nat) (tag : Tag) : Maker Data := do
  let t ← scalarText ((← get).nodes.size + 1) i
  match tag, ← node i with
  | .moment, .map .. => throw .momentOfMapping
  | tag, _ =>
    match scalarValue t tag with
    | .ok d => return d
    | .error e => throw e

/-- What a collection is before its parts are there. -/
def unfilled? : Tag → Option Made
  | .list => some (.list [])
  | .pairs => some (.pairs [])
  | .set => some (.set [])
  | .map => some (.map [])
  | _ => none

/-- Makes a value, if it is not there yet; a collection waits for its parts. -/
def make (i : Nat) : Maker Unit := do
  if (← made? i).isNone then
    let tag := (← node i).tag
    match unfilled? tag with
    | some v =>
      setMade i v
      modify fun m => { m with waiting := i :: m.waiting }
    | none => setMade i (.scalar (← scalar i tag))

def fieldsOf (i : Nat) : Maker (List (Nat × Nat)) := do
  match ← node i with
  | .map _ fields => return fields
  | _ => throw .malformed

mutual

/-- Moves the fields of merged mappings in front of a mapping's own; those of the first come last, and
so they count. A key that stands for the value of its mapping is a text from now on. -/
def merge : Nat → Nat → Maker Unit
  | 0, _ => throw .endless
  | fuel + 1, i => do
    let found ← mergeFrom fuel i 0
    if !found.isEmpty then
      match ← node i with
      | .map tag fields => setNode i (.map tag (found ++ fields))
      | _ => return

def mergeFrom : Nat → Nat → Nat → Maker (List (Nat × Nat))
  | 0, _, _ => throw .endless
  | fuel + 1, i, place => do
    match ← node i with
    | .map tag fields =>
      match fields[place]? with
      | none => return []
      | some (k, v) =>
        let key ← node k
        if key.tag = .merge then
          setNode i (.map tag (fields.eraseIdx place))
          let first ← mergedFields fuel v
          return first ++ (← mergeFrom fuel i place)
        else
          if key.tag = .value then setNode k (key.withTag .text)
          mergeFrom fuel i (place + 1)
    | _ => throw .malformed

def mergedFields : Nat → Nat → Maker (List (Nat × Nat))
  | 0, _ => throw .endless
  | fuel + 1, i => do
    match ← node i with
    | .scalar .. => throw .malformed
    | .map .. => do
      merge fuel i
      fieldsOf i
    | .list _ items => return (← mergedAll fuel items).flatten

def mergedAll : Nat → List Nat → Maker (List (List (Nat × Nat)))
  | 0, _ => throw .endless
  | _ + 1, [] => return []
  | fuel + 1, i :: rest => do
    match ← node i with
    | .map .. => do
      merge fuel i
      let first ← fieldsOf i
      return (← mergedAll fuel rest) ++ [first]
    | _ => throw .malformed

end

def mergeSteps (nodes : Array Node) : Nat :=
  let size (n : Node) : Nat := match n with
    | .scalar .. => 1
    | .list _ items => items.length + 1
    | .map _ fields => fields.length + 1
  let total := nodes.foldl (fun n x => n + size x) 1
  8 * total * total

/-- Sets a field, by nodes: a key that is the same node or the same value keeps its place. -/
def put (k v : Nat) : List (Nat × Nat) → Maker (List (Nat × Nat))
  | [] => return [(k, v)]
  | (k', v') :: rest => do
    let same ← match ← made? k, ← made? k' with
      | some (.scalar a), some (.scalar b) => pure (k = k' || Data.sameKey a b)
      | _, _ => pure false
    if same then return (k', v) :: rest else return (k', v') :: (← put k v rest)

/-- Makes the fields of a mapping; a collection is no key. -/
def fields (i : Nat) : Maker (List (Nat × Nat)) := do
  discard (fieldsOf i)
  merge (mergeSteps (← get).nodes) i
  (← fieldsOf i).foldlM (fun done (k, v) => do
    make k
    match ← made? k with
    | some (.scalar _) =>
      make v
      put k v done
    | _ => throw .malformed) []

def pairs : List Nat → Maker (List (Nat × Nat))
  | [] => return []
  | i :: rest => do
    match ← node i with
    | .map _ [(k, v)] =>
      make k
      make v
      return (k, v) :: (← pairs rest)
    | _ => throw .malformed

def itemsOf (i : Nat) : Maker (List Nat) := do
  match ← node i with
  | .list _ items => return items
  | _ => throw .malformed

def fill (i : Nat) : Maker Unit := do
  match ← made? i with
  | some (.list _) =>
    let items ← itemsOf i
    items.forM make
    setMade i (.list items)
  | some (.pairs _) => setMade i (.pairs (← pairs (← itemsOf i)))
  | some (.set _) => setMade i (.set ((← fields i).map (·.1)))
  | some (.map _) => setMade i (.map (← fields i))
  | _ => return

def fillAll : Nat → Maker Unit
  | 0 => return
  | fuel + 1 => do
    let level := (← get).waiting.reverse
    if level.isEmpty then return
    modify fun m => { m with waiting := [] }
    level.forM fill
    fillAll fuel

end Maker

def Made.data (part : Nat → Data) : Made → Data
  | scalar d => d
  | list items => .list (items.map part)
  | pairs items => .list (items.map fun (k, v) => .list [part k, part v])
  | set keys => .list (keys.map part)
  | map fields => .map (fields.map fun (k, v) => (part k, part v))

def Made.outline : Made → Data
  | scalar d => d
  | map _ => .map []
  | _ => .list []

/-- The values of all nodes, down to a depth. -/
def seen (made : Array (Option Made)) : Nat → Array Data
  | 0 => made.map fun v => (v.map Made.outline).getD .null
  | depth + 1 =>
    let parts := seen made depth
    made.map fun v => (v.map (Made.data fun i => parts.getD i .null)).getD .null

def depth : Nat := 8

def Document.value (d : Document) : Except ConfigError Data :=
  let making : Making := ⟨d.nodes, Array.replicate d.nodes.size none, []⟩
  let run : Maker Unit := do
    Maker.make d.root
    Maker.fillAll (d.nodes.size + 1)
  (run.run making).map fun (_, m) => (seen m.made depth).getD d.root .null

def read (room : Nat) (t : Text) : Except ConfigError Data :=
  match document room t with
  | .error e => .error e
  | .ok none => .ok .null
  | .ok (some d) => d.value

end Redraft.Yaml
