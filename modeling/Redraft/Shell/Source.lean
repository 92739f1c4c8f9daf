import Redraft.Shell.Script

/-!
The text of a script as it is read: what is left of it, the line that reading has come to, and the
texts in it that stand behind the line that asks for them.
-/
namespace Redraft.Shell

/-- What is wrong with a script, and on which line. -/
structure Fault where
  line : Nat
  reason : Text

inductive Token where
  | word (w : Word)
  | keyword (t : Text)
  | op (t : Text)
  | newline
  | redirect (fd : Option Nat) (mark : Text)
  | stop

/-- A text that is asked for on a line and stands behind it. -/
structure Asked where
  number : Nat
  mark : Text
  literal : Bool
  stripped : Bool

structure Source where
  rest : Text
  line : Nat
  pushed : Option Token
  asked : List Asked
  documents : List (Nat × Word)
  fresh : Nat

abbrev Parser := StateT Source (Except Fault)

namespace Parser

def fail {α : Type} (reason : Text) : Parser α := do throw ⟨(← get).line, reason⟩

/-- The text that is left, less the joins of lines at its start, and the lines passed. -/
def unjoined : Text → Nat → Text × Nat
  | .scalar '\\' :: .scalar '\n' :: rest, line => unjoined rest (line + 1)
  | t, line => (t, line)

/-- Passes over joins of lines: a backslash and a line end. -/
def skipJoins : Parser Unit :=
  modify fun s =>
    let (rest, line) := unjoined s.rest s.line
    { s with rest, line }

def peek? : Parser (Option CodePoint) := do
  skipJoins
  return (← get).rest.head?

def advance : Parser Unit :=
  modify fun s =>
    match s.rest with
    | c :: rest => { s with rest, line := if c = Text.newline then s.line + 1 else s.line }
    | [] => s

def skip (c : Char) : Parser Bool := do
  if (← peek?) = some (.scalar c) then
    advance
    return true
  else return false

def takeRun (fits : CodePoint → Bool) : Nat → Parser Text
  | 0 => return []
  | fuel + 1 => do
    match ← peek? with
    | some c =>
      if fits c then
        advance
        return c :: (← takeRun fits fuel)
      else return []
    | none => return []

def skipBlanks : Nat → Parser Unit
  | 0 => return
  | fuel + 1 => do
    match ← peek? with
    | some c =>
      if isBlankChar c then
        advance
        skipBlanks fuel
      else if c = .scalar '#' then
        modify fun s => { s with rest := s.rest.dropWhile (· ≠ Text.newline) }
    | none => return

def unread (t : Token) : Parser Unit := modify fun s => { s with pushed := some t }

def ask (mark : Text) (literal stripped : Bool) : Parser Nat := do
  let s ← get
  set { s with fresh := s.fresh + 1, asked := s.asked ++ [Asked.mk s.fresh mark literal stripped] }
  return s.fresh

end Parser

/-- The lines of a document up to its mark, and what follows the mark. In a text with meaning a line
that ends with a backslash goes on with the next one, which is then no mark. -/
def documentLines (a : Asked) : (joined : Bool) → Nat → Text → Text × Text
  | _, 0, t => ([], t)
  | _, _ + 1, [] => ([], [])
  | joined, fuel + 1, t =>
    let t := if a.stripped && !joined then t.dropWhile (· = .scalar '\t') else t
    let line := t.takeWhile (· ≠ Text.newline)
    let rest := t.drop line.length
    if line = a.mark ∧ !joined then ([], rest.drop 1)
    else
      let joins := !a.literal && (line.reverse.takeWhile (· = .scalar '\\')).length % 2 = 1
      let (more, after) := documentLines a joins fuel (rest.drop 1)
      (line ++ rest.take 1 ++ more, after)

end Redraft.Shell
