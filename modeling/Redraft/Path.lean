import Redraft.Text.Basic

/-!
Paths, by their form alone. A path is an anchor and names; empty names and single dots are dropped,
double dots are kept.
-/
namespace Redraft

/-- What a path starts from. Two leading slashes are kept apart from one. -/
inductive Anchor where
  | relative
  | root
  | doubleRoot
  deriving DecidableEq

structure Path where
  anchor : Anchor
  names : List Text
  deriving DecidableEq

namespace Path

def slash : CodePoint := '/'

def namesOf (t : Text) : List Text :=
  (Text.split slash t).filter fun name => !name.isEmpty && name ≠ Text.ofString "."

def ofText (t : Text) : Path :=
  let slashes := (t.takeWhile (· = slash)).length
  ⟨if slashes = 0 then .relative else if slashes = 2 then .doubleRoot else .root, namesOf t⟩

def anchorText : Anchor → Text
  | .relative => []
  | .root => "/"
  | .doubleRoot => "//"

def toText (p : Path) : Text :=
  if p.anchor = .relative ∧ p.names = [] then "."
  else anchorText p.anchor ++ Text.join [slash] p.names

def isAbsolute (p : Path) : Bool := p.anchor ≠ .relative

def resolveFrom (base p : Path) : Path :=
  if p.isAbsolute then p else ⟨base.anchor, base.names ++ p.names⟩

def parent (p : Path) : Path := ⟨p.anchor, p.names.dropLast⟩

def name (p : Path) : Text := p.names.getLast?.getD []

def child (p : Path) (name : Text) : Path := ⟨p.anchor, p.names ++ [name]⟩

/-- The last dot of a name and all behind it, if something stands on both sides of the dot. -/
def suffix (p : Path) : Text :=
  let back := p.name.reverse
  let ending := back.takeWhile (· ≠ .scalar '.')
  let stem := back.drop (ending.length + 1)
  if ending.isEmpty ∨ stem.isEmpty then [] else .scalar '.' :: ending.reverse

end Path

end Redraft
