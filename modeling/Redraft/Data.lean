import Redraft.Decimal.Shortest
import Redraft.Text.Quoted
import Redraft.Text.Utf8

/-!
Decoded documents: what the texts of the two data formats denote. A mapping keeps its fields in the
order in which their keys first came.
-/
namespace Redraft

inductive Data where
  | null
  | bool (b : Bool)
  | int (n : Int)
  | float (x : Float)
  | text (t : Text)
  | bytes (b : Bytes)
  /-- A date or a point in time: the text that shows it and, where it is a point in the time of the
  world, the microseconds up to it. -/
  | moment (shown : Text) (instant : Option Int)
  | list (items : List Data)
  | map (fields : List (Data × Data))
  deriving Inhabited

namespace Data

def wholeNumber? : Data → Option Int
  | bool b => some (if b then 1 else 0)
  | int n => some n
  | float x => Decimal.whole? x
  | _ => none

/-- Whether two scalars are the same key. Numbers are compared by value. -/
def sameKey : Data → Data → Bool
  | null, null => true
  | text s, text t => s = t
  | bytes s, bytes t => s = t
  | moment _ (some i), moment _ (some j) => i = j
  | moment s none, moment t none => s = t
  | float x, float y => x == y
  | a, b => match a.wholeNumber?, b.wholeNumber? with
    | some m, some n => m = n
    | _, _ => false

/-- Sets a field: a new key comes last, a known one keeps its place. -/
def put (key value : Data) : List (Data × Data) → List (Data × Data)
  | [] => [(key, value)]
  | (k, v) :: rest => if sameKey k key then (k, value) :: rest else (k, v) :: put key value rest

def field? (name : Text) (fields : List (Data × Data)) : Option Data :=
  (fields.find? fun (k, _) => match k with | text t => t = name | _ => false).map (·.2)

def isTruthy : Data → Bool
  | null => false
  | bool b => b
  | int n => n ≠ 0
  | float x => !(x == 0.0)
  | text t => !t.isEmpty
  | bytes b => !b.isEmpty
  | moment .. => true
  | list items => !items.isEmpty
  | map fields => !fields.isEmpty

def quotedBytes (b : Bytes) : Text :=
  let chars : Text := b.map fun x => .scalar (Char.ofNat x.toNat)
  let quote : Char := if chars.contains (.scalar '\'') && !chars.contains (.scalar '"') then '"' else '\''
  let one (c : CodePoint) : Text := if 0x7F ≤ c.value then "\\x" ++ Text.hex 2 c.value else Text.escape quote c
  .scalar 'b' :: .scalar quote :: chars.flatMap one ++ [.scalar quote]

mutual

def inspect : Data → Text
  | null => "None"
  | bool b => if b then "True" else "False"
  | int n => Text.ofInt n
  | float x => Decimal.write x
  | text t => Text.quoted t
  | bytes b => quotedBytes b
  | moment shown _ => shown
  | list items => "[" ++ Text.join ", " (inspectAll items) ++ "]"
  | map fields => Text.ofString "\x7b" ++ Text.join ", " (inspectFields fields) ++ Text.ofString "\x7d"

def inspectAll : List Data → List Text
  | [] => []
  | d :: rest => inspect d :: inspectAll rest

def inspectFields : List (Data × Data) → List Text
  | [] => []
  | (k, v) :: rest => (inspect k ++ Text.ofString ": " ++ inspect v) :: inspectFields rest

end

def display : Data → Text
  | text t => t
  | d => d.inspect

end Data

end Redraft
