import Redraft.Source.Cursor
import Redraft.Text.Case

/-!
Definition blocks of a name, found by their form alone. A block is a run of signature lines, a
binding line, and the lines up to the next blank one. A name is bound under its own spelling or
under its private one.
-/
namespace Redraft.Source

/-- The private spelling of a name: an underscore and the name with its first letter in upper case.
The empty name has none. -/
def privateName? : Text → Option Text
  | [] => none
  | c :: rest => some (.scalar '_' :: c.upper ++ rest)

def isInline (c : CodePoint) : Bool := c.isBlank && c ≠ Text.newline

def inLine (c : CodePoint) : Bool := c ≠ Text.newline

def inParens (c : CodePoint) : Bool := c ≠ Text.newline && c ≠ .scalar ')'

def spelled (names : List Text) (c : Cursor) : List Cursor :=
  (names.filterMap (c.skip? ·)).filter (·.atBoundary)

def mentioned (names : List Text) (c : Cursor) : List Cursor :=
  if c.atBoundary then spelled names c else []

def testMarks : List Text := ["=?=", "!!"]

def skipTestMark? (c : Cursor) : Option Cursor := testMarks.findSome? (c.skip? ·)

/-- `= name` -/
def boundAfterEquals? (names : List Text) (c : Cursor) : Option Cursor := do
  let c ← c.skip? "="
  (c.reach isInline).findSome? fun c => (spelled names c).head?

/-- `= (… name …)` -/
def boundInParens? (names : List Text) (c : Cursor) : Option Cursor := do
  let c ← c.skip? "="
  let c ← (c.advance isInline).skip? "("
  (c.reach inParens).findSome? fun c =>
    (mentioned names c).findSome? fun c => (c.advance inParens).skip? ")"

/-- `name = …` -/
def boundBeforeEquals? (names : List Text) (c : Cursor) : Option Cursor :=
  (names.filterMap (c.skip? ·)).findSome? fun c => (c.advance isInline).skip? "="

def testedAfterMark? (names : List Text) (c : Cursor) : Option Cursor := do
  let c ← skipTestMark? c
  (c.reach inLine).findSome? fun c => (mentioned names c).head?

/-- A test line that mentions the name and has its mark later. -/
def testedBeforeMark? (names : List Text) (c : Cursor) : Option Cursor :=
  (c.reach inLine).findSome? fun c =>
    (mentioned names c).findSome? fun c => (c.reach inLine).findSome? skipTestMark?

def bound? (names : List Text) (c : Cursor) : Option Cursor :=
  (boundAfterEquals? names c).or <| (boundInParens? names c).or <|
    (boundBeforeEquals? names c).or <| (testedAfterMark? names c).or <| testedBeforeMark? names c

/-- The places behind each run of signature lines, the farthest first. A signature line starts with
a greater-than sign and has a line after it. -/
def afterSignatures : Nat → Cursor → List Cursor
  | 0, c => [c]
  | fuel + 1, c =>
    match (c.skip? ">").bind fun c => (c.advance inLine).skip? "\n" with
    | some next => afterSignatures fuel next ++ [c]
    | none => [c]

/-- The length of the block from inside its binding line on: the rest of the line and all following
lines that are not blank. -/
def blockLength (rest : Text) : Nat :=
  match Text.lines rest with
  | [] => 0
  | line :: others =>
    let body := others.takeWhile fun l => !l.isBlank
    body.foldl (fun n l => n + (l.length + 1)) line.length

/-- The length of the block that starts at a line start. -/
def block? (names : List Text) (c : Cursor) : Option Nat :=
  ((afterSignatures c.rest.length c).findSome? (bound? names)).map fun e =>
    c.rest.length - e.rest.length + blockLength e.rest

/-- A part of a text, from `start` on and before `stop`. -/
structure Span where
  start : Nat
  stop : Nat
  deriving DecidableEq

/-- The blocks of a text in order, none inside another. `skip` code points belong to a block that
is already found. -/
def scan (names : List Text) (index skip : Nat) (before : Option CodePoint) : Text → List Span
  | [] => []
  | x :: rest =>
    match skip with
    | skip + 1 => scan names (index + 1) skip (some x) rest
    | 0 =>
      let here : Cursor := ⟨before, x :: rest⟩
      match if here.atLineStart then block? names here else none with
      | some n => ⟨index, index + n⟩ :: scan names (index + 1) (n - 1) (some x) rest
      | none => scan names (index + 1) 0 (some x) rest

def spans? (text name : Text) : Option (List Span) :=
  (privateName? name).map fun hidden => scan [name, hidden] 0 0 none text

def Span.slice (s : Span) (text : Text) : Text := (text.drop s.start).take (s.stop - s.start)

def blocks? (text name : Text) : Option (List Text) :=
  (spans? text name).map fun found => found.map (·.slice text)

/-- The blocks of several names in the order of the names, with blank lines between them; nothing
if a name is empty. -/
def definitions? (text : Text) (names : List Text) : Option Text :=
  (names.mapM (blocks? text)).map fun found => Text.trim (Text.join "\n\n" found.flatten)

end Redraft.Source
