import Redraft.Shell.Script

/-!
Patterns that match texts: a star for any text, a question mark for any character, brackets for one
of several characters. Quoted characters stand for themselves.
-/
namespace Redraft.Shell

abbrev Mark := CodePoint × Bool

def Mark.isBare (c : Char) (m : Mark) : Bool := m = (.scalar c, false)

def classHolds (name : Text) (c : CodePoint) : Bool :=
  let n := c.value
  let between (a b : Nat) : Bool := a ≤ n && n ≤ b
  let upper := between 0x41 0x5A
  let lower := between 0x61 0x7A
  let digit := between 0x30 0x39
  let kinds : List (String × Bool) := [
    ("alnum", upper || lower || digit), ("alpha", upper || lower), ("blank", n = 9 || n = 32),
    ("cntrl", n < 32 || n = 127), ("digit", digit), ("graph", between 0x21 0x7E), ("lower", lower),
    ("print", between 0x20 0x7E),
    ("punct", between 0x21 0x7E && !(upper || lower || digit)),
    ("space", between 9 13 || n = 32), ("upper", upper),
    ("xdigit", digit || between 0x41 0x46 || between 0x61 0x66)]
  kinds.any fun (k, holds) => Text.ofString k = name && holds

/-- What stands between brackets: ranges, and names of kinds. -/
inductive Item where
  | range (first last : Nat)
  | kind (name : Text)

def Item.has (c : CodePoint) : Item → Bool
  | range first last => first ≤ c.value && c.value ≤ last
  | kind name => classHolds name c

inductive Piece where
  | any
  | one
  | oneOf (negated : Bool) (items : List Item)
  | char (c : CodePoint)

def kind? (ms : List Mark) : Option (Text × List Mark) :=
  match ms with
  | m :: rest =>
    if m.isBare ':' then
      let name := rest.takeWhile fun (c, _) => isNameChar c
      match rest.drop name.length with
      | a :: b :: after =>
        if a.isBare ':' && b.isBare ']' then some (name.map (·.1), after) else none
      | _ => none
    else none
  | [] => none

/-- A character that stands for itself, with what follows it. Behind a backslash that a value has left,
that is the next character. -/
def plainMark (m : Mark) (rest : List Mark) : CodePoint × List Mark :=
  match m.isBare '\\', rest with
  | true, n :: more => (n.1, more)
  | _, _ => (m.1, rest)

/-- The items up to the closing bracket; `first` at the start, where a bracket stands for itself. -/
def items? (first : Bool) : Nat → List Mark → Option (List Item × List Mark)
  | 0, _ => none
  | _ + 1, [] => none
  | fuel + 1, m :: rest =>
    if m.isBare ']' && !first then some ([], rest)
    else
      match if m.isBare '[' then kind? rest else none with
      | some (name, rest) => (items? false fuel rest).map fun (is, after) => (.kind name :: is, after)
      | none =>
        let (c, rest) := plainMark m rest
        let single : Option (List Item × List Mark) :=
          (items? false fuel rest).map fun (is, after) => (.range c.value c.value :: is, after)
        match rest with
        | d :: last :: more =>
          if d.isBare '-' && !last.isBare ']' then
            let (e, more) := plainMark last more
            (items? false fuel more).map fun (is, after) => (.range c.value e.value :: is, after)
          else single
        | _ => single

def pieces : Nat → List Mark → List Piece
  | 0, _ => []
  | _ + 1, [] => []
  | fuel + 1, m :: rest =>
    if m.isBare '*' then .any :: pieces fuel rest
    else if m.isBare '?' then .one :: pieces fuel rest
    else if m.isBare '[' then
      let (negated, inner) := match rest with
        | n :: more => if n.isBare '!' || n.isBare '^' then (true, more) else (false, rest)
        | [] => (false, [])
      match items? true (inner.length + 1) inner with
      | some (is, after) => .oneOf negated is :: pieces fuel after
      | none => .char m.1 :: pieces fuel rest
    else
      let (c, rest) := plainMark m rest
      .char c :: pieces fuel rest

def Piece.takes (c : CodePoint) : Piece → Bool
  | any => true
  | one => true
  | oneOf negated items => items.any (·.has c) != negated
  | char d => c = d

def fits : List Piece → Text → Bool
  | [], t => t.isEmpty
  | .any :: ps, [] => fits ps []
  | .any :: ps, c :: rest => fits ps (c :: rest) || fits (.any :: ps) rest
  | _ :: _, [] => false
  | p :: ps, c :: rest => p.takes c && fits ps rest
termination_by ps t => (t.length, ps.length)

def patternOf (ms : List Mark) : List Piece := pieces (ms.length + 1) ms

def isPattern (ms : List Mark) : Bool :=
  ms.any fun m => m.isBare '*' || m.isBare '?' || m.isBare '['

def firstArgument (t : Text) : Text := t.takeWhile fun c => c.value ≠ 0

/-- A text without the beginning that a pattern matches, the shortest or the longest one. What is compared
ends where an argument ends. -/
def withoutStart (longest : Bool) (ps : List Piece) (t : Text) : Text :=
  let tried := if longest then (List.range (t.length + 1)).reverse
    else List.range ((firstArgument t).length + 1)
  match tried.find? fun n => fits ps (firstArgument (t.take n)) with
  | some n => t.drop n
  | none => t

/-- A text without the end that a pattern matches, the shortest or the longest one. What is compared ends
where an argument ends. -/
def withoutEnd (longest : Bool) (ps : List Piece) (t : Text) : Text :=
  let tried := if longest then List.range ((firstArgument t).length + 1)
    else (List.range (t.length + 1)).reverse
  match tried.find? fun n => fits ps (firstArgument (t.drop n)) with
  | some n => t.take n
  | none => t

end Redraft.Shell
