import Redraft.Shell.Pattern

/-!
From the text of words to fields. Text that a value left outside quotes is split where separators
stand in it: white space around fields is dropped, any other separator ends one field.
-/
namespace Redraft.Shell

/-- What a word is made of once its values are put in. -/
inductive Atom where
  | char (c : CodePoint) (quoted : Bool)
  | loose (c : CodePoint)
  /-- A quotation mark, which makes a field even if nothing else does. -/
  | edge
  | gap
  | cut

namespace Atom

def chars (quoted : Bool) (t : Text) : List Atom := t.map (char · quoted)

def looses (t : Text) : List Atom := gap :: t.map loose

def mark? : Atom → Option Mark
  | char c quoted => some (c, quoted)
  | loose c => some (c, false)
  | _ => none

end Atom

def marksOf (atoms : List Atom) : List Mark := atoms.filterMap Atom.mark?

def textOf (atoms : List Atom) : Text := (marksOf atoms).map (·.1)

def isFieldSpace (c : CodePoint) : Bool :=
  c = .scalar ' ' || c = .scalar '\t' || c = Text.newline || c.value = 0

/-- Fields as they grow. -/
structure Splitting where
  full : List (List Mark)
  field : List Mark
  begun : Bool
  spaced : Bool
  room : Option Nat
  kept : Option Nat

namespace Splitting

def add (m : Mark) (s : Splitting) : Splitting := { s with field := m :: s.field, begun := true }

def close (s : Splitting) : Splitting :=
  { s with full := s.field.reverse :: s.full, field := [], begun := false }

def addLoose (isSeparator : Bool) (c : CodePoint) (s : Splitting) : Splitting :=
  let isSpace := isSeparator && isFieldSpace c
  if s.room = some 0 then
    let kept :=
      if isSpace then some (s.kept.getD s.field.length)
      else if isSeparator && s.spaced then s.kept
      else none
    { s.add (c, false) with kept := kept, spaced := isSpace && s.spaced }
  else if s.spaced && isSeparator then { s with spaced := isSpace }
  else if !isSeparator then { s.add (c, false) with spaced := false }
  else if isSpace && !s.begun then s
  else
    let s := { s with spaced := isSpace }
    match s.room with
    | none => s.close
    | some n =>
      if n = 1 then { s.add (c, false) with room := some 0, kept := some s.field.length }
      else { s.close with room := some (n - 1) }

def addAtom (separators : Text) (s : Splitting) : Atom → Splitting
  | .char c quoted => s.add (c, quoted)
  | .loose c => s.addLoose (c.value = 0 || separators.contains c) c
  | .edge => { s with begun := true }
  | .gap => { s with spaced := false }
  | .cut => s.close

def fields (s : Splitting) : List (List Mark) :=
  let last := match s.kept with
    | some n => s.field.drop (s.field.length - n)
    | none => s.field
  let all := if last.isEmpty && !(s.begun && s.kept.isNone) then s.full else last.reverse :: s.full
  all.reverse

end Splitting

def split (separators : Text) (most : Option Nat) (atoms : List Atom) : List (List Mark) :=
  (atoms.foldl (Splitting.addAtom separators) ⟨[], [], false, false, most, none⟩).fields

end Redraft.Shell
