import Redraft.Template.Token
import Redraft.Data
import Redraft.Failure

/-!
Expressions of a template: how they are written and what their values are. Values are texts and
truths; an expression that does more with values is well formed and has no value here.
-/
namespace Redraft.Template

inductive Expr where
  | const (d : Data)
  | name (t : Text)
  | not (e : Expr)
  | and (a b : Expr)
  | or (a b : Expr)
  | choose (test yes no : Expr)
  | joined (a b : Expr)
  /-- Arithmetic, comparison, a part of a value or the use of a function. -/
  | beyond

abbrev Reader := StateT (List Token) (Except TemplateError)

namespace Reader

def refuse {α : Type} (reason : Text) : Reader α := throw (.malformed reason)

/-- Goes on to some tokens. A fault counts as soon as it comes next. -/
def moveTo (tokens : List Token) : Reader Unit :=
  match tokens with
  | .bad reason :: _ => refuse reason
  | _ => set tokens

def next? : Reader (Option Token) := return (← get).head?

def second? : Reader (Option Token) := do
  match (← get).tail with
  | .bad reason :: _ => refuse reason
  | tokens => return tokens.head?

def advance : Reader Unit := do moveTo (← get).tail

def describeNext : Reader Text := do
  match ← next? with
  | none => return "end of template"
  | some token => return token.describe

def skip (token : Token) : Reader Bool := do
  if (← next?) = some token then
    advance
    return true
  else return false

def refuseNext {α : Type} (awaited : Text) : Reader α := do
  match ← next? with
  | none => refuse (Text.ofString "unexpected end of template, expected " ++ Text.quoted awaited
      ++ Text.ofString ".")
  | some token => refuse (Text.ofString "expected token " ++ Text.quoted awaited
      ++ Text.ofString ", got " ++ Text.quoted token.describe)

def expect (token : Token) : Reader Unit := do
  unless ← skip token do refuseNext token.describe

def expectName : Reader Unit := do
  match ← next? with
  | some (.name _) => advance
  | _ => refuseNext "name"

def dottedName : Nat → Reader Unit
  | 0 => expectName
  | fuel + 1 => do
    expectName
    if ← skip (.op ".") then dottedName fuel

def listed (close : Token) (item : Reader Unit) : Nat → Reader Unit
  | 0 => refuse []
  | fuel + 1 => do
    if ← skip close then return
    item
    if ← skip close then return
    expect (.op ",")
    listed close item fuel

def separated (close : Token) (item : Reader Unit) : Nat → Reader Unit
  | 0 => refuse []
  | fuel + 1 => do
    item
    if ← skip close then return
    expect (.op ",")
    separated close item fuel

end Reader

open Reader

def constant? (word : Text) : Option Data :=
  if word = Text.ofString "true" ∨ word = Text.ofString "True" then some (.bool true)
  else if word = Text.ofString "false" ∨ word = Text.ofString "False" then some (.bool false)
  else if word = Text.ofString "none" ∨ word = Text.ofString "None" then some .null
  else none

/-- Operators between two operands by how tightly they bind, the loosest first. -/
inductive Tier where
  | or | and | comparison | sum | joining | product | power
  deriving DecidableEq

namespace Tier

def words : Tier → List Text
  | or => ["or"]
  | and => ["and"]
  | comparison => ["in"]
  | _ => []

def signs : Tier → List Text
  | comparison => ["==", "!=", "<", "<=", ">", ">="]
  | sum => ["+", "-"]
  | joining => ["~"]
  | product => ["*", "/", "//", "%"]
  | power => ["**"]
  | _ => []

def make : Tier → Expr → Expr → Expr
  | or => .or
  | and => .and
  | joining => .joined
  | _ => fun _ _ => .beyond

def skipOperator (tier : Tier) : Reader Bool := do
  match ← next? with
  | some (.op o) =>
    if tier.signs.contains o then
      advance
      return true
    else return false
  | some (.name w) =>
    if tier.words.contains w then
      advance
      return true
    else if tier = comparison ∧ w = Text.ofString "not" then
      if (← second?) = some (.name "in") then
        advance
        advance
        return true
      else return false
    else return false
  | _ => return false

end Tier

def moreText : Nat → Text → Reader Expr
  | 0, t => return .const (.text t)
  | fuel + 1, t => do
    match ← next? with
    | some (.string more) =>
      advance
      moreText fuel (t ++ more)
    | _ => return .const (.text t)

/-- Which arguments of a use have come: a list spread out, fields spread out, a named one. -/
structure Given where
  spread : Bool
  fields : Bool
  named : Bool

def atListEnd : Reader Bool := do
  match ← next? with
  | some .outputEnd => return true
  | some .blockEnd => return true
  | some token => return token = .op ")"
  | none => return false

def atPlaceEnd : Reader Bool := do
  match ← next? with
  | some (.op o) => return [Text.ofString ":", ",", "]"].contains o
  | _ => return false

def skipSign : Reader Bool := do
  if ← skip (.op "-") then return true
  else skip (.op "+")

def meetsNamed : Reader Bool := do
  match ← next? with
  | some (.name _) => return (← second?) = some (.op "=")
  | _ => return false

def meetsOperand : Reader Bool := do
  match ← next? with
  | some (.name w) => return !([Text.ofString "else", "or", "and"].contains w)
  | some (.string _) => return true
  | some (.integer _) => return true
  | some (.decimal ..) => return true
  | some (.op o) => return [Text.ofString "(", "[", "\x7b"].contains o
  | _ => return false

mutual

/-- One expression, or several with commas between them; `choices` if it may be an inline choice. -/
def sequence (choices : Bool) : Nat → Reader Expr
  | 0 => refuse []
  | fuel + 1 => do
    if ← atListEnd then
      refuse (Text.ofString "Expected an expression, got " ++ Text.quoted (← describeNext))
    let e ← expression choices fuel
    if ← skip (.op ",") then
      moreItems choices fuel
      return .beyond
    else return e

def moreItems (choices : Bool) : Nat → Reader Unit
  | 0 => refuse []
  | fuel + 1 => do
    if ← atListEnd then return
    let _ ← expression choices fuel
    if ← skip (.op ",") then moreItems choices fuel

def expression (choices : Bool) : Nat → Reader Expr
  | 0 => refuse []
  | fuel + 1 => do
    let e ← tier .or fuel
    if choices then choice e fuel else return e

def choice (yes : Expr) : Nat → Reader Expr
  | 0 => refuse []
  | fuel + 1 => do
    if ← skip (.name "if") then
      let test ← tier .or fuel
      if ← skip (.name "else") then
        let no ← expression true fuel
        choice (.choose test yes no) fuel
      else choice .beyond fuel
    else return yes

def tier (t : Tier) : Nat → Reader Expr
  | 0 => refuse []
  | fuel + 1 => do
    let e ← operand t fuel
    operations t e fuel

def operations (t : Tier) (e : Expr) : Nat → Reader Expr
  | 0 => refuse []
  | fuel + 1 => do
    if ← t.skipOperator then
      let right ← operand t fuel
      operations t (t.make e right) fuel
    else return e

def operand (t : Tier) : Nat → Reader Expr
  | 0 => refuse []
  | fuel + 1 =>
    match t with
    | .or => tier .and fuel
    | .and => negation fuel
    | .comparison => tier .sum fuel
    | .sum => tier .joining fuel
    | .joining => tier .product fuel
    | .product => tier .power fuel
    | .power => signed true fuel

def negation : Nat → Reader Expr
  | 0 => refuse []
  | fuel + 1 => do
    if ← skip (.name "not") then return .not (← negation fuel)
    else tier .comparison fuel

/-- A value behind any signs, with what is done to it; `filters` if that may be a filter. -/
def signed (filters : Bool) : Nat → Reader Expr
  | 0 => refuse []
  | fuel + 1 => do
    let e ← if ← skipSign then
        let _ ← signed false fuel
        pure Expr.beyond
      else single fuel
    let e ← parts e fuel
    if filters then filtered e fuel else return e

def single : Nat → Reader Expr
  | 0 => refuse []
  | fuel + 1 => do
    match ← next? with
    | some (.name t) =>
      advance
      return match constant? t with
        | some d => .const d
        | none => .name t
    | some (.string t) =>
      advance
      moreText fuel t
    | some (.integer n) =>
      advance
      return .const (.int n)
    | some (.decimal whole fraction exponent) =>
      advance
      return .const (.float (Decimal.readParts false whole fraction exponent))
    | _ =>
      if ← skip (.op "(") then
        let e ← if (← next?) = some (.op ")") then pure Expr.beyond else sequence true fuel
        expect (.op ")")
        return e
      else if ← skip (.op "[") then
        listed (.op "]") (discard (expression true fuel)) fuel
        return .beyond
      else if ← skip (.op "\x7b") then
        listed (.op "\x7d") (field fuel) fuel
        return .beyond
      else refuse (Text.ofString "unexpected " ++ Text.quoted (← describeNext))

def field : Nat → Reader Unit
  | 0 => refuse []
  | fuel + 1 => do
    let _ ← expression true fuel
    expect (.op ":")
    let _ ← expression true fuel

def parts (e : Expr) : Nat → Reader Expr
  | 0 => refuse []
  | fuel + 1 => do
    if ← skip (.op ".") then
      let token ← next?
      advance
      match token with
      | some (.name _) => parts .beyond fuel
      | some (.integer _) => parts .beyond fuel
      | _ => refuse "expected name or number"
    else if ← skip (.op "[") then
      unless ← skip (.op "]") do separated (.op "]") (place fuel) fuel
      parts .beyond fuel
    else if ← skip (.op "(") then
      arguments ⟨false, false, false⟩ fuel
      parts .beyond fuel
    else return e

def place : Nat → Reader Unit
  | 0 => refuse []
  | fuel + 1 => do
    unless ← skip (.op ":") do
      let _ ← expression true fuel
      unless ← skip (.op ":") do return
    unless ← atPlaceEnd do
      let _ ← expression true fuel
    if ← skip (.op ":") then
      unless ← atPlaceEnd do
        let _ ← expression true fuel

def arguments (given : Given) : Nat → Reader Unit
  | 0 => refuse []
  | fuel + 1 => do
    if ← skip (.op ")") then return
    let given ← argument given fuel
    if ← skip (.op ")") then return
    expect (.op ",")
    arguments given fuel

def argument (given : Given) : Nat → Reader Given
  | 0 => refuse []
  | fuel + 1 => do
    let allow (condition : Bool) : Reader Unit :=
      unless condition do refuse "invalid syntax for function call expression"
    if (← next?) = some (.op "*") then
      allow (!given.spread && !given.fields)
      advance
      let _ ← expression true fuel
      return { given with spread := true }
    else if (← next?) = some (.op "**") then
      allow !given.fields
      advance
      let _ ← expression true fuel
      return { given with fields := true }
    else if ← meetsNamed then
      allow !given.fields
      advance
      advance
      let _ ← expression true fuel
      return { given with named := true }
    else
      allow (!given.spread && !given.fields && !given.named)
      let _ ← expression true fuel
      return given

def filtered (e : Expr) : Nat → Reader Expr
  | 0 => refuse []
  | fuel + 1 => do
    if ← skip (.op "|") then
      dottedName fuel
      if ← skip (.op "(") then arguments ⟨false, false, false⟩ fuel
      filtered .beyond fuel
    else if ← skip (.name "is") then
      let _ ← skip (.name "not")
      dottedName fuel
      if ← skip (.op "(") then arguments ⟨false, false, false⟩ fuel
      else if ← meetsOperand then
        if (← next?) = some (.name "is") then refuse "You cannot chain multiple tests with is"
        let operand ← single fuel
        let _ ← parts operand fuel
      filtered .beyond fuel
    else if ← skip (.op "(") then
      arguments ⟨false, false, false⟩ fuel
      filtered .beyond fuel
    else return e

end

def nextExpression (choices : Bool) : Reader Expr := do
  sequence choices (32 * ((← get).length + 1))

abbrev Context := List (Text × Data)

def eval (context : Context) : Expr → Except TemplateError Data
  | .const d => .ok d
  | .name t => match context.lookup t with
    | some d => .ok d
    | none => .error (.undefined t)
  | .not e => (eval context e).map fun d => .bool !d.isTruthy
  | .and a b => do
    let d ← eval context a
    if d.isTruthy then eval context b else return d
  | .or a b => do
    let d ← eval context a
    if d.isTruthy then return d else eval context b
  | .choose test yes no => do
    if (← eval context test).isTruthy then eval context yes else eval context no
  | .joined a b => do
    return .text ((← eval context a).display ++ (← eval context b).display)
  | .beyond => .error .beyond

end Redraft.Template
