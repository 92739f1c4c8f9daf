import Redraft.Text.Word
import Redraft.Text.Blank

/-!
Places in a text, for finding names in it. A word boundary is a place with a word character on
exactly one side.
-/
namespace Redraft

/-- A place in a text: the code point before it and all that comes after it. -/
structure Cursor where
  before : Option CodePoint
  rest : Text
  deriving DecidableEq

namespace Cursor

def atLineStart (c : Cursor) : Bool := c.before = none || c.before = some Text.newline

def atBoundary (c : Cursor) : Bool :=
  (c.before.any (·.isWord)) != (c.rest.head?.any (·.isWord))

def skip? (t : Text) (c : Cursor) : Option Cursor :=
  (Text.dropStart? t c.rest).map fun rest => ⟨(t.getLast?).or c.before, rest⟩

/-- The places behind each run of allowed code points, the farthest first and this one last. -/
def stretch (allowed : CodePoint → Bool) (before : Option CodePoint) : Text → List Cursor
  | [] => [⟨before, []⟩]
  | x :: rest =>
    if allowed x then stretch allowed (some x) rest ++ [⟨before, x :: rest⟩]
    else [⟨before, x :: rest⟩]

def reach (allowed : CodePoint → Bool) (c : Cursor) : List Cursor :=
  stretch allowed c.before c.rest

def advance (allowed : CodePoint → Bool) (c : Cursor) : Cursor :=
  ⟨((c.rest.takeWhile allowed).getLast?).or c.before, c.rest.dropWhile allowed⟩

end Cursor

end Redraft
