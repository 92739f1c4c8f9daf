import Redraft.Text.Basic

/-!
Tables under text keys, as lists in the order in which the keys first came.
-/
namespace Redraft.Keyed

variable {α : Type}

def assign (key : Text) (value : α) : List (Text × α) → List (Text × α)
  | [] => [(key, value)]
  | (k, v) :: rest => if k = key then (k, value) :: rest else (k, v) :: assign key value rest

def ofPairs (pairs : List (Text × α)) : List (Text × α) :=
  pairs.foldl (fun done (k, v) => assign k v done) []

end Redraft.Keyed
