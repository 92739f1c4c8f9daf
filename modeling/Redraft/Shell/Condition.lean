import Redraft.Shell.Machine

/-!
Conditions, which `test` is asked for: tests of one text, comparisons of two, and conditions made of
others. Where words can be read as an operation or as texts, what follows them decides.
-/
namespace Redraft.Shell

/-- What the first of several words is. -/
inductive Sign where
  | unary
  | binary
  | bang
  | and
  | or
  | opening
  | closing
  | operand
  | stop
  deriving DecidableEq

def comparisons : List Text := [
  "=", "!=", "<", ">", "-eq", "-ne", "-gt", "-ge", "-lt", "-le", "-nt", "-ot", "-ef"]

def testLetters : Text := "rwxefdcbpugkstznhOGLS"

def isTest : Text → Bool
  | [.scalar '-', c] => testLetters.contains c
  | _ => false

def madeOperand : List Text → Bool
  | [] => true
  | [_] => false
  | op :: _ :: _ => comparisons.contains op

namespace Sign

def of : List Text → Sign
  | [] => .stop
  | w :: rest =>
    if comparisons.contains w then .binary
    else if isTest w then if madeOperand rest then .operand else .unary
    else if w = Text.ofString "!" then .bang
    else if w = Text.ofString "-a" then .and
    else if w = Text.ofString "-o" then .or
    else if w = Text.ofString "(" then if rest.isEmpty then .operand else .opening
    else if w = Text.ofString ")" then .closing
    else .operand

end Sign

namespace Machine

def illegalNumber (t : Text) : Text := Text.ofString "Illegal number: " ++ t

def testOf (letter : Char) (t : Text) (m : Machine) : Bool :=
  let node? := (m.files.stat (pathOf t)).toOption
  let missing := t.isEmpty
  let kind (ok : Node → Bool) : Bool := !missing && node?.any ok
  match letter with
  | 'n' => !t.isEmpty
  | 'z' => t.isEmpty
  | 'f' => kind fun n => match n with | .file .. => true | _ => false
  | 'd' => kind fun n => match n with | .dir _ => true | _ => false
  | 's' => kind fun n => match n with | .file b _ => !b.isEmpty | _ => true
  | 'x' => kind fun n => match n with | .file _ mode => mode &&& 0o111 ≠ 0 | _ => true
  | 'u' => kind fun n => match n with | .file _ mode => mode &&& 0o4000 ≠ 0 | _ => false
  | 'g' => kind fun n => match n with | .file _ mode => mode &&& 0o2000 ≠ 0 | _ => false
  | 'k' => kind fun n => match n with | .file _ mode => mode &&& 0o1000 ≠ 0 | _ => false
  | 'h' => m.isLink t
  | 'L' => m.isLink t
  | 'e' => kind fun _ => true
  | 'r' => kind fun _ => true
  | 'w' => kind fun _ => true
  | 'O' => kind fun _ => true
  | 'G' => kind fun _ => true
  | _ => false

def compared (a op b : Text) (m : Machine) : Except Text Bool :=
  let place (t : Text) : Option Location := (m.files.locate true (pathOf t)).toOption
  let numbers (holds : Int → Int → Bool) : Except Text Bool :=
    match number? (some 10) false a, number? (some 10) false b with
    | some x, some y => .ok (holds x y)
    | none, _ => .error (illegalNumber a)
    | _, none => .error (illegalNumber b)
  if op = Text.ofString "=" then .ok (a = b)
  else if op = Text.ofString "!=" then .ok (a ≠ b)
  else if op = Text.ofString "<" then .ok (Text.le a b && a ≠ b)
  else if op = Text.ofString ">" then .ok (Text.le b a && a ≠ b)
  else if op = Text.ofString "-eq" then numbers (· = ·)
  else if op = Text.ofString "-ne" then numbers (· ≠ ·)
  else if op = Text.ofString "-lt" then numbers (· < ·)
  else if op = Text.ofString "-le" then numbers (· ≤ ·)
  else if op = Text.ofString "-gt" then numbers fun x y => y < x
  else if op = Text.ofString "-ge" then numbers fun x y => y ≤ x
  else if op = Text.ofString "-ef" then .ok ((place a).isSome && place a = place b)
  else .ok false

end Machine

namespace Condition

abbrev Held := Except Text (Bool × List Text)

mutual

def disjunction (m : Machine) (s : Sign) (ws : List Text) : Nat → Held
  | 0 => .ok (false, ws)
  | fuel + 1 => do
    let (a, ws) ← conjunction m s ws fuel
    if Sign.of (ws.drop 1) = .or then
      let rest := ws.drop 2
      let (b, ws) ← disjunction m (.of rest) rest fuel
      return (a || b, ws)
    else return (a, ws)

def conjunction (m : Machine) (s : Sign) (ws : List Text) : Nat → Held
  | 0 => .ok (false, ws)
  | fuel + 1 => do
    let (a, ws) ← negation m s ws fuel
    if Sign.of (ws.drop 1) = .and then
      let rest := ws.drop 2
      let (b, ws) ← conjunction m (.of rest) rest fuel
      return (a && b, ws)
    else return (a, ws)

def negation (m : Machine) (s : Sign) (ws : List Text) : Nat → Held
  | 0 => .ok (false, ws)
  | fuel + 1 => do
    if s = .bang then
      let rest := ws.drop 1
      let (a, ws) ← negation m (.of rest) (if rest.isEmpty then ws else rest) fuel
      return (!a, ws)
    else primary m s ws fuel

def primary (m : Machine) (s : Sign) (ws : List Text) : Nat → Held
  | 0 => .ok (false, ws)
  | fuel + 1 => do
    let rest := ws.drop 1
    match s, ws with
    | .stop, _ => return (false, ws)
    | .opening, _ =>
      if Sign.of rest = .closing then return (false, rest)
      else
        let (a, ws) ← disjunction m (.of rest) rest fuel
        if Sign.of (ws.drop 1) = .closing then return (a, ws.drop 1)
        else throw (Text.ofString "closing paren expected")
    | .unary, [.scalar '-', .scalar letter] :: t :: _ => return (m.testOf letter t, rest)
    | _, a :: op :: more =>
      if Sign.of rest = .binary then
        match more with
        | b :: _ => return (← m.compared a op b, more)
        | [] => throw (op ++ Text.ofString ": argument expected")
      else return (!a.isEmpty, ws)
    | _, a :: _ => return (!a.isEmpty, ws)
    | _, [] => return (false, ws)

end

def whole (m : Machine) (s : Sign) (ws : List Text) : Except Text Bool := do
  let (a, last) ← disjunction m s ws (8 * ws.length + 8)
  match last with
  | w :: _ :: _ => throw (w ++ Text.ofString ": unexpected operator")
  | _ => return a

end Condition

open Condition in
def condition (m : Machine) : Nat → List Text → Except Text Bool
  | 0, _ => .ok false
  | fuel + 1, ws =>
    let inner : Except Text Bool :=
      match ws with
      | w :: rest =>
        if w = Text.ofString "(" ∧ rest.getLast? = some (Text.ofString ")") then
          whole m (.of rest.dropLast) rest.dropLast
        else if w = Text.ofString "!" then (condition m fuel rest).map (!·)
        else whole m (.of ws) ws
      | [] => .ok false
    match ws with
    | [] => .ok false
    | [_, op, _] => if comparisons.contains op then whole m .operand ws else inner
    | [_, _, _, _] => inner
    | _ => whole m (.of ws) ws

end Redraft.Shell
