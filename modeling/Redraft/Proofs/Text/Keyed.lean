import Mathlib.Data.List.Induction
import Mathlib.Data.List.Nodup
import Redraft.Text.Keyed

/-!
Tables under text keys. A table that is made by settings has no key twice, and settings with
distinct keys are the table itself, in which each key has the value it was given.
-/
namespace Redraft.Keyed

variable {α : Type} {key k : Text} {value v : α} {table pairs : List (Text × α)}

theorem mem_keys_assign : k ∈ (assign key value table).map Prod.fst ↔
    k = key ∨ k ∈ table.map Prod.fst := by
  induction table with
  | nil => simp [assign]
  | cons entry rest ih =>
    obtain ⟨k', v'⟩ := entry
    by_cases hk : k' = key
    · simp [assign, hk]
    · rw [assign, if_neg hk, List.map_cons, List.map_cons, List.mem_cons, List.mem_cons, ih]
      tauto

theorem nodup_assign (h : (table.map Prod.fst).Nodup) :
    ((assign key value table).map Prod.fst).Nodup := by
  induction table with
  | nil => simp [assign]
  | cons entry rest ih =>
    obtain ⟨k', v'⟩ := entry
    rw [List.map_cons, List.nodup_cons] at h
    by_cases hk : k' = key
    · rw [assign, if_pos hk, List.map_cons, List.nodup_cons]
      exact h
    · rw [assign, if_neg hk, List.map_cons, List.nodup_cons, mem_keys_assign]
      exact ⟨fun hmem => hmem.elim hk h.1, ih h.2⟩

theorem assign_of_notMem (h : key ∉ table.map Prod.fst) :
    assign key value table = table ++ [(key, value)] := by
  induction table with
  | nil => rfl
  | cons entry rest ih =>
    obtain ⟨k', v'⟩ := entry
    rw [List.map_cons, List.mem_cons, not_or] at h
    rw [assign, if_neg (Ne.symm h.1), ih h.2, List.cons_append]

theorem ofPairs_concat (pairs : List (Text × α)) (key : Text) (value : α) :
    ofPairs (pairs ++ [(key, value)]) = assign key value (ofPairs pairs) := by
  rw [ofPairs, List.foldl_append]
  rfl

theorem nodup_ofPairs (pairs : List (Text × α)) : ((ofPairs pairs).map Prod.fst).Nodup := by
  induction pairs using List.reverseRecOn with
  | nil => exact List.nodup_nil
  | append_singleton pairs entry ih =>
    obtain ⟨k', v'⟩ := entry
    rw [ofPairs_concat]
    exact nodup_assign ih

theorem mem_keys_ofPairs : k ∈ (ofPairs pairs).map Prod.fst ↔ k ∈ pairs.map Prod.fst := by
  induction pairs using List.reverseRecOn with
  | nil => rfl
  | append_singleton pairs entry ih =>
    obtain ⟨k', v'⟩ := entry
    rw [ofPairs_concat, mem_keys_assign, ih, List.map_append, List.mem_append, or_comm]
    simp

theorem ofPairs_of_nodup (h : (pairs.map Prod.fst).Nodup) : ofPairs pairs = pairs := by
  induction pairs using List.reverseRecOn with
  | nil => rfl
  | append_singleton pairs entry ih =>
    obtain ⟨k', v'⟩ := entry
    rw [List.map_append, List.nodup_append] at h
    rw [ofPairs_concat, ih h.1, assign_of_notMem]
    exact fun hmem => h.2.2 _ hmem _ (by simp) rfl

theorem lookup_of_mem (h : (table.map Prod.fst).Nodup) (hmem : (k, v) ∈ table) :
    table.lookup k = some v := by
  induction table with
  | nil => cases hmem
  | cons entry rest ih =>
    obtain ⟨k', v'⟩ := entry
    rw [List.map_cons, List.nodup_cons] at h
    rcases List.mem_cons.1 hmem with heq | hrest
    · cases heq
      exact List.lookup_cons_self
    · have hne : (k == k') = false := by
        rw [beq_eq_false_iff_ne]
        rintro rfl
        exact h.1 (List.mem_map.2 ⟨_, hrest, rfl⟩)
      rw [List.lookup_cons, hne, ih h.2 hrest]

theorem mem_of_lookup {κ : Type} [BEq κ] [LawfulBEq κ] {key : κ} {table : List (κ × α)}
    (h : table.lookup key = some v) : (key, v) ∈ table := by
  obtain ⟨before, after, rfl, -⟩ := List.lookup_eq_some_iff.1 h
  exact List.mem_append_right before List.mem_cons_self

theorem lookup_eq_none (h : k ∉ table.map Prod.fst) : table.lookup k = none := by
  rw [List.lookup_eq_none_iff]
  intro entry hmem
  rw [bne_iff_ne]
  rintro rfl
  exact h (List.mem_map_of_mem hmem)

end Redraft.Keyed
