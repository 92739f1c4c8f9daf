import Redraft.Text.Blank

/-!
Tagged parts of a reply, searched for from left to right. From an opening tag on, a body is as short
as its closing tag allows; where white space at its ends is not part of it, as much of that as
possible is tried first.
-/
namespace Redraft.Tag

/-- The first thing that is found from some place of a text on. -/
def firstFrom {α : Type} (find? : Text → Option α) : Text → Option α
  | [] => find? []
  | c :: rest => (find? (c :: rest)).or (firstFrom find? rest)

def occurs (mark t : Text) : Bool := (firstFrom (Text.dropStart? mark) t).isSome

/-- The shortest text up to a place where it is closed. -/
def shortest? (closes : Text → Bool) : Text → Option Text
  | [] => if closes [] then some [] else none
  | c :: rest => if closes (c :: rest) then some [] else (shortest? closes rest).map (c :: ·)

/-- What is left behind each run of white space at the start, before what `tried` holds. -/
def behindBlanks (tried : List Text) : Text → List Text
  | [] => [] :: tried
  | c :: rest => if c.isBlank then behindBlanks ((c :: rest) :: tried) rest else (c :: rest) :: tried

def body? (opening closing : Text) : Text → Option Text :=
  firstFrom fun t => (Text.dropStart? opening t).bind (shortest? closing.isPrefixOf)

def trimmedBody? (opening closing : Text) : Text → Option Text :=
  firstFrom fun t => (Text.dropStart? opening t).bind fun t =>
    (behindBlanks [] t).findSome? (shortest? fun u => (behindBlanks [] u).any closing.isPrefixOf)

end Redraft.Tag
