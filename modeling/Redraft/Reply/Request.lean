import Redraft.Schema

/-!
Requests for context: a path, how much of the file is wanted, and the names that are wanted of it.
-/
namespace Redraft

/-- How much of a file is wanted. -/
inductive Mode where
  | full
  | exports
  | definitions
  deriving DecidableEq

namespace Mode

def toText : Mode → Text
  | full => "full"
  | exports => "exports"
  | definitions => "definitions"

def names : List (Text × Mode) :=
  [("full", full), ("exports", exports), ("definitions", definitions)]

def ofText? (t : Text) : Option Mode := names.lookup t

end Mode

structure Request where
  path : Text
  mode : Mode
  definitions : Option (List Text)
  deriving DecidableEq

namespace Request

open Checked Schema

def noBlankNames : Option (List Text) → Bool
  | some names => names.all fun n => !Text.isBlank n
  | none => true

def namesWanted (r : Request) : Bool :=
  r.mode ≠ .definitions || r.definitions.any fun names => !names.isEmpty

def definitionNames (d : Data) : Checked (Option (List Text)) :=
  (optional (list text) d).ensure noBlankNames fun _ => .refused "Definition names must not be blank"

def ofFields (f : List (Data × Data)) : Checked Request :=
  let read := ((required "path" text f).map Request.mk)
    |> (and · (required "mode" (choice Mode.names) f))
    |> (and · (defaulted "definitions" none definitionNames f))
  read.ensure namesWanted fun _ =>
    .refused "mode 'definitions' requires a non-empty 'definitions' list"

def ofData : Data → Checked Request := record "ContextRequest" ofFields

end Request

end Redraft
