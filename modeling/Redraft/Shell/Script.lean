import Redraft.Text.Basic

/-!
Shell scripts as trees: words with values in them, and commands. A shell works on bytes: each code
point of a text in a script is one byte, with a number below 256.
-/
namespace Redraft.Shell

/-- How the value of a parameter is used. A colon counts an empty value as none. -/
inductive Use where
  | plain
  | length
  | default (colon : Bool)
  | assign (colon : Bool)
  | demand (colon : Bool)
  | instead (colon : Bool)
  | dropStart (longest : Bool)
  | dropEnd (longest : Bool)
  | bad

/-- How a redirection opens a file. -/
inductive Way where
  | read
  | write
  | replace
  | append
  | both
  deriving DecidableEq

mutual

/-- A part of a word. What is quoted stays in one field and has no patterns in it. -/
inductive Part where
  | text (t : Text) (quoted : Bool)
  | param (name : Text) (use : Use) (word : List Part) (quoted : Bool)
  | output (c : Option Script) (quoted : Bool)
  | sum (word : List Part) (quoted : Bool)

inductive Redirect where
  | file (fd : Nat) (way : Way) (target : List Part)
  | copy (fd : Nat) (target : List Part)
  | document (fd number : Nat)

inductive Script where
  | simple (line : Nat) (assignments : List (Text × List Part)) (words : List (List Part))
    (redirects : List Redirect)
  | pipeline (stages : List Script)
  | not (c : Script)
  | and (a b : Script)
  | or (a b : Script)
  | series (a b : Script)
  | background (c : Script)
  | subshell (line : Nat) (c : Script) (redirects : List Redirect)
  | redirected (line : Nat) (c : Script) (redirects : List Redirect)
  | choice (test yes : Script) (no : Option Script)
  | loop (wanted : Bool) (test body : Script)
  | each (line : Nat) (name : Text) (words : List (List Part)) (body : Script)
  | select (line : Nat) (word : List Part) (clauses : List (List (List Part) × Option Script))
  | define (line : Nat) (name : Text) (body : Script)

end

abbrev Word := List Part

namespace Part

def bare? : Part → Option Text
  | text t false => some t
  | _ => none

end Part

def Word.bare? (w : Word) : Option Text :=
  w.foldr (fun p t? => do return (← p.bare?) ++ (← t?)) (some [])

def Word.cons (p : Part) : Word → Word
  | q :: rest =>
    match p, q with
    | .text t false, .text u false => .text (t ++ u) false :: rest
    | .text t true, .text u true => .text (t ++ u) true :: rest
    | _, _ => p :: q :: rest
  | [] => [p]

def isBlankChar (c : CodePoint) : Bool := c = .scalar ' ' || c = .scalar '\t'

def isNameStart : CodePoint → Bool
  | .scalar c => c.isAlpha || c = '_'
  | .surrogate _ => false

def isNameChar : CodePoint → Bool
  | .scalar c => c.isAlphanum || c = '_'
  | .surrogate _ => false

def isDigit (c : CodePoint) : Bool := c.digit?.isSome

def isName (t : Text) : Bool := t.head?.any isNameStart && t.all isNameChar

def nameOf? (t : Text) : Option (Text × Text) :=
  match Text.breakOn? "=" t with
  | some (name, value) => if isName name then some (name, value) else none
  | none => none

def Word.assignment? : Word → Option (Text × Word)
  | .text t false :: rest =>
    (nameOf? t).map fun (name, value) =>
      (name, if value.isEmpty then rest else .text value false :: rest)
  | _ => none

end Redraft.Shell
