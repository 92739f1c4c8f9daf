import Mathlib.Data.List.Perm.Subperm
import Mathlib.Data.List.Nodup
import Redraft.Files.Write
import Redraft.Proofs.Text.Hexadecimal

/-!
What the operations on a tree leave alone. A temporary name is free in its directory, so putting a
file there and taking it away again gives back the very tree.
-/
namespace Redraft.Tree

variable {t : Tree} {l m : Location} {n : Node}

@[simp]
theorem append_singleton_ne_nil (l : Location) (a : Text) : l ++ [a] ≠ [] := by simp

theorem node?_put_of_ne_nil (h : l ≠ []) : (t.put l n).node? l = some n := by
  cases l with
  | nil => exact absurd rfl h
  | cons a l => exact node?_put_self t a l n

theorem mem_keys_iff (h : l ≠ []) : l ∈ t.entries.map Prod.fst ↔ (t.node? l).isSome := by
  rw [node?_of_ne_nil h, Option.isSome_iff_ne_none, ne_eq, List.lookup_eq_none_iff]
  simp

theorem remove_of_free (h : l ≠ []) (hf : t.node? l = none) : t.remove l = t := by
  have hl : l ∉ t.entries.map Prod.fst := by
    rw [mem_keys_iff h, hf]
    simp
  have hfilter : t.entries.filter (·.1 ≠ l) = t.entries := by
    rw [List.filter_eq_self]
    intro e he
    have hne : e.1 ≠ l := fun heq => hl (heq ▸ List.mem_map_of_mem he)
    simpa using hne
  simp only [remove, hfilter]

theorem remove_put_of_free (h : l ≠ []) (hf : t.node? l = none) : (t.put l n).remove l = t := by
  calc (t.put l n).remove l
      = (t.remove l).remove l := by simp [put, remove, List.filter_append]
    _ = t := by rw [remove_of_free h hf, remove_of_free h hf]

theorem temporaryName_injective (name : Text) : Function.Injective (temporaryName name) := by
  intro j k h
  unfold temporaryName at h
  exact Text.hex_injective 8 (List.append_cancel_left (List.append_cancel_right h))

theorem length_temporaryName (name : Text) (k : Nat) :
    name.length < (temporaryName name k).length := by
  have hdot : (Text.ofString ".").length = 1 := rfl
  simp only [temporaryName, List.length_append, hdot]
  omega

theorem exists_free (t : Tree) (dir : Location) (name : Text) :
    ∃ k ∈ List.range (t.entries.length + 1), t.node? (dir ++ [temporaryName name k]) = none := by
  by_contra hall
  push Not at hall
  let places := (List.range (t.entries.length + 1)).map fun k => dir ++ [temporaryName name k]
  have hnodup : places.Nodup := by
    refine List.nodup_range.map ?_
    intro j k h
    exact temporaryName_injective name (by simpa using h)
  have hsub : places ⊆ t.entries.map Prod.fst := by
    intro l hl
    obtain ⟨k, hk, rfl⟩ := List.mem_map.1 hl
    rw [mem_keys_iff (append_singleton_ne_nil _ _), Option.isSome_iff_ne_none]
    exact hall k hk
  have hlen := (hnodup.subperm hsub).length_le
  simp [places] at hlen

theorem node?_freshName (t : Tree) (dir : Location) (name : Text) :
    t.node? (dir ++ [t.freshName dir name]) = none := by
  obtain ⟨k, hk, hfree⟩ := exists_free t dir name
  unfold freshName
  dsimp only
  cases hfind : (List.range (t.entries.length + 1)).find? fun k =>
      (t.node? (dir ++ [temporaryName name k])).isNone with
  | none =>
    rw [List.find?_eq_none] at hfind
    exact absurd (by simp [hfree]) (hfind k hk)
  | some j =>
    have hj := List.find?_some hfind
    simpa using hj

theorem length_freshName (t : Tree) (dir : Location) (name : Text) :
    name.length < (t.freshName dir name).length := length_temporaryName name _

end Redraft.Tree
