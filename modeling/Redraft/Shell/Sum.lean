import Redraft.Shell.Script

/-!
Sums: whole numbers of 64 bits, variables, and operations on them. A sum may set variables; what it
sets is told in the order in which it is set.
-/
namespace Redraft.Shell

def wrap (n : Int) : Int := n.bmod 0x10000000000000000

def leastInt : Int := -0x8000000000000000
def greatestInt : Int := 0x7FFFFFFFFFFFFFFF

def leadingNumber (t : Text) : Nat × Text × Text :=
  let run (base : Nat) (t : Text) : Nat × Text × Text :=
    let digits := t.takeWhile fun c => c.hexDigit?.any (· < base)
    (base, digits, t.drop digits.length)
  match t with
  | .scalar '0' :: .scalar x :: rest =>
    if x.toLower = 'x' ∧ rest.head?.any (·.hexDigit?.isSome) then run 16 rest else run 8 t
  | .scalar '0' :: _ => run 8 t
  | _ => run 10 t

def isSpace (c : CodePoint) : Bool := (9 ≤ c.value && c.value ≤ 13) || c.value = 32

/-- A number in the notation of a script, in a base if one is asked for, with white space around it.
Without digits it is zero where `blank` allows that. -/
def number? (base : Option Nat) (blank : Bool) (t : Text) : Option Int :=
  let whole := t
  let t := t.dropWhile isSpace
  let (negative, t) := match t with
    | .scalar '-' :: r => (true, r)
    | .scalar '+' :: r => (false, r)
    | r => (false, r)
  let (base, digits, rest) := match base with
    | some b =>
      let digits := t.takeWhile fun c : CodePoint => c.hexDigit?.any (· < b)
      (b, digits, t.drop digits.length)
    | none => leadingNumber t
  let n : Int := (Text.digits? base digits).getD 0
  let n := if negative then -n else n
  if digits.isEmpty then if blank && whole.all isSpace then some 0 else none
  else if !rest.all isSpace then none
  else if n < leastInt ∨ greatestInt < n then none
  else some n

inductive SumToken where
  | number (n : Int)
  | name (t : Text)
  | op (t : Text)
  | bad
  deriving DecidableEq

def sumMarks : List Text :=
  let marks : List String := [
    "<<=", ">>=", "&&", "||", "==", "!=", "<=", ">=", "<<", ">>", "+=", "-=", "*=", "/=", "%=",
    "&=", "|=", "^=", "+", "-", "*", "/", "%", "(", ")", "<", ">", "=", "!", "~", "&", "|", "^",
    "?", ":"]
  marks.map Text.ofString

def sumTokens : Nat → Text → List SumToken
  | 0, _ => []
  | fuel + 1, t =>
    match t.dropWhile fun c => isBlankChar c || c = Text.newline with
    | [] => []
    | c :: rest =>
      if isDigit c then
        let (base, digits, after) := leadingNumber (c :: rest)
        let n : Int := (Text.digits? base digits).getD 0
        .number (if greatestInt < n then greatestInt else n) :: sumTokens fuel after
      else if isNameStart c then
        let name := (c :: rest).takeWhile isNameChar
        .name name :: sumTokens fuel ((c :: rest).drop name.length)
      else
        match sumMarks.findSome? fun o => (Text.dropStart? o (c :: rest)).map (o, ·) with
        | some (o, after) => .op o :: sumTokens fuel after
        | none => [.bad]

/-- Why a sum has no value. -/
inductive SumFault where
  | malformed (reason : String)
  | illegal (t : Text)
  | unset (name : Text)

/-- What is left of a sum, and the variables set so far, the last first. -/
structure Summing where
  tokens : List SumToken
  set : List (Text × Int)

abbrev Summer := StateT Summing (Except SumFault)

namespace Summer

def refuse {α : Type} (reason : String) : Summer α := throw (.malformed reason)

def next? : Summer (Option SumToken) := return (← get).tokens.head?

def advance : Summer Unit := modify fun s => { s with tokens := s.tokens.drop 1 }

def skip (mark : Text) : Summer Bool := do
  if (← next?) = some (.op mark) then
    advance
    return true
  else return false

end Summer

open Summer

def truth (b : Bool) : Int := if b then 1 else 0

def shiftBy (b : Int) : Nat := (b % 64).toNat

def bitwise (f : Nat → Nat → Nat) (a b : Int) : Int :=
  let word (n : Int) : Nat := (n % 0x10000000000000000).toNat
  wrap (f (word a) (word b))

/-- Operations with their ranks, the tightest rank lowest. -/
def operations : List (Text × Nat × (Int → Int → Int)) := [
  ("*", 1, (· * ·)), ("/", 1, Int.tdiv), ("%", 1, Int.tmod), ("+", 2, (· + ·)), ("-", 2, (· - ·)),
  ("<<", 3, fun a b => a * Nat.pow 2 (shiftBy b)), (">>", 3, fun a b => Int.fdiv a (Nat.pow 2 (shiftBy b))),
  ("<", 4, fun a b => truth (a < b)), ("<=", 4, fun a b => truth (a ≤ b)),
  (">", 4, fun a b => truth (b < a)), (">=", 4, fun a b => truth (b ≤ a)),
  ("==", 5, fun a b => truth (a = b)), ("!=", 5, fun a b => truth (a ≠ b)),
  ("&", 6, bitwise Nat.land), ("^", 7, bitwise Nat.xor), ("|", 8, bitwise Nat.lor)]

def loosestRank : Nat := 9

def operate (mark : Text) (unwanted : Bool) (a b : Int) : Summer Int := do
  if unwanted then return b
  else if (mark = Text.ofString "/" ∨ mark = Text.ofString "%") ∧ b = 0 then
    refuse "division by zero"
  else match operations.lookup mark with
    | some (_, f) => return wrap (f a b)
    | none => return 0

def valueOf (value? : Text → Except SumFault (Option Text)) (name : Text) : Summer Int := do
  match (← get).set.lookup name with
  | some n => return n
  | none =>
    match ← value? name with
    | none => return 0
    | some t =>
      match number? none true t with
      | some n => return n
      | none => throw (.illegal t)

def assigning? (mark : Text) : Option (Option Text) :=
  if mark = Text.ofString "=" then some none
  else
    let forms : List Text := ["<<=", ">>=", "+=", "-=", "*=", "/=", "%=", "&=", "|=", "^="]
    if forms.contains mark then some (some mark.dropLast) else none

mutual

def assignment (value? : Text → Except SumFault (Option Text)) (unwanted : Bool) : Nat → Summer Int
  | 0 => refuse "expecting primary"
  | fuel + 1 => do
    match (← get).tokens with
    | .name name :: .op o :: rest =>
      match assigning? o with
      | some operation =>
        modify fun s => { s with tokens := rest }
        let n ← assignment value? unwanted fuel
        if unwanted then return n
        else
          let n ← match operation with
            | some o => do operate o false (← valueOf value? name) n
            | none => pure n
          modify fun s => { s with set := (name, n) :: s.set }
          return n
      | none => conditional value? unwanted fuel
    | _ => conditional value? unwanted fuel

def conditional (value? : Text → Except SumFault (Option Text)) (unwanted : Bool) : Nat → Summer Int
  | 0 => refuse "expecting primary"
  | fuel + 1 => do
    let a ← either value? unwanted fuel
    if ← skip "?" then
      let b ← assignment value? (unwanted || a = 0) fuel
      unless ← skip ":" do refuse "expecting ':'"
      let c ← conditional value? (unwanted || a ≠ 0) fuel
      return if a = 0 then c else b
    else return a

def either (value? : Text → Except SumFault (Option Text)) (unwanted : Bool) : Nat → Summer Int
  | 0 => refuse "expecting primary"
  | fuel + 1 => do
    let a ← both value? unwanted fuel
    if ← skip "||" then
      let b ← either value? (unwanted || a ≠ 0) fuel
      return truth (a ≠ 0 || b ≠ 0)
    else return a

def both (value? : Text → Except SumFault (Option Text)) (unwanted : Bool) : Nat → Summer Int
  | 0 => refuse "expecting primary"
  | fuel + 1 => do
    let a ← ranked value? unwanted loosestRank fuel
    if ← skip "&&" then
      let b ← both value? (unwanted || a = 0) fuel
      return truth (a ≠ 0 && b ≠ 0)
    else return a

def ranked (value? : Text → Except SumFault (Option Text)) (unwanted : Bool) (rank : Nat) :
    Nat → Summer Int
  | 0 => refuse "expecting primary"
  | fuel + 1 => do joined value? unwanted rank (← primary value? unwanted fuel) fuel

def joined (value? : Text → Except SumFault (Option Text)) (unwanted : Bool) (rank : Nat) (a : Int) :
    Nat → Summer Int
  | 0 => refuse "expecting primary"
  | fuel + 1 => do
    match ← next? with
    | some (.op o) =>
      match operations.lookup o with
      | some (r, _) =>
        if r < rank then
          advance
          let b ← ranked value? unwanted r fuel
          joined value? unwanted rank (← operate o unwanted a b) fuel
        else return a
      | none => return a
    | _ => return a

def primary (value? : Text → Except SumFault (Option Text)) (unwanted : Bool) : Nat → Summer Int
  | 0 => refuse "expecting primary"
  | fuel + 1 => do
    match ← next? with
    | some (.number n) =>
      advance
      return n
    | some (.name t) =>
      advance
      if unwanted then return 0 else valueOf value? t
    | some (.op _) =>
      if ← skip "(" then
        let n ← assignment value? unwanted fuel
        unless ← skip ")" do refuse "expecting ')'"
        return n
      else if ← skip "+" then primary value? unwanted fuel
      else if ← skip "-" then return wrap (-(← primary value? unwanted fuel))
      else if ← skip "!" then return truth ((← primary value? unwanted fuel) = 0)
      else if ← skip "~" then return wrap (-(← primary value? unwanted fuel) - 1)
      else refuse "expecting primary"
    | _ => refuse "expecting primary"

end

/-- The value of a sum and what it sets, the first first. A name that has no value counts as zero. -/
def sumOf (value? : Text → Except SumFault (Option Text)) (t : Text) :
    Except SumFault (Int × List (Text × Int)) := do
  let tokens := sumTokens (t.length + 1) t
  let (n, s) ← (assignment value? false (24 * tokens.length + 24)).run ⟨tokens, []⟩
  match s.tokens with
  | [] => return (n, s.set.reverse)
  | _ => throw (.malformed "expecting EOF")

def SumFault.message (t : Text) : SumFault → Text
  | malformed reason =>
    Text.ofString "arithmetic expression: " ++ Text.ofString reason ++ Text.ofString ": \""
      ++ t ++ Text.ofString "\""
  | illegal t => Text.ofString "Illegal number: " ++ t
  | unset name => name ++ Text.ofString ": parameter not set"

end Redraft.Shell
