import Redraft.Text.Basic

/-!
Texts in parts. Splitting goes over joining, and finds parts again that have no separator in them.
-/
namespace Redraft.Text

variable {sep : CodePoint} {part glue : Text} {parts : List Text}

theorem split_append (s t : Text) : split sep (s ++ sep :: t) = split sep s ++ split sep t := by
  induction s with
  | nil => simp [split]
  | cons c s ih =>
    simp only [List.cons_append, split, ih]
    split
    · rfl
    · cases hs : split sep s with
      | nil => exact absurd hs (split_ne_nil _ _)
      | cons part parts => rfl

theorem split_eq_singleton (h : sep ∉ part) : split sep part = [part] := by
  induction part with
  | nil => rfl
  | cons c rest ih =>
    rw [List.mem_cons, not_or] at h
    rw [split, if_neg (Ne.symm h.1), ih h.2]

theorem split_join (hne : parts ≠ []) (h : ∀ part ∈ parts, sep ∉ part) :
    split sep (join [sep] parts) = parts := by
  induction parts with
  | nil => exact absurd rfl hne
  | cons part parts ih =>
    have hpart := split_eq_singleton (h part List.mem_cons_self)
    cases parts with
    | nil => exact hpart
    | cons next parts =>
      have hjoin : join [sep] (part :: next :: parts) = part ++ sep :: join [sep] (next :: parts) := by
        simp [join]
      rw [hjoin, split_append, hpart, ih (by simp) fun p hp => h p (List.mem_cons_of_mem _ hp)]
      rfl

theorem sep_notMem_split (t : Text) : ∀ part ∈ split sep t, sep ∉ part := by
  induction t with
  | nil => simp [split]
  | cons c rest ih =>
    unfold split
    split
    · simpa using ih
    · next hc =>
      split
      · simpa using Ne.symm hc
      · next part parts hs =>
        rw [hs] at ih
        simpa [Ne.symm hc] using ih

theorem join_cons_cons (part next : Text) (parts : List Text) :
    join glue (part :: next :: parts) = part ++ glue ++ join glue (next :: parts) := rfl

theorem join_append {ls ms : List Text} (hls : ls ≠ []) (hms : ms ≠ []) :
    join glue (ls ++ ms) = join glue ls ++ (glue ++ join glue ms) := by
  induction ls with
  | nil => exact absurd rfl hls
  | cons l ls ih =>
    cases ls with
    | nil =>
      obtain ⟨m, ms, rfl⟩ := List.exists_cons_of_ne_nil hms
      simp [join]
    | cons k ls =>
      have htail := ih (by simp)
      simp only [List.cons_append, join] at htail ⊢
      rw [htail, List.append_assoc, List.append_assoc, List.append_assoc]

theorem join_eq_nil {ls : List Text} (hls : ∀ l ∈ ls, l ≠ []) : join glue ls = [] ↔ ls = [] := by
  cases ls with
  | nil => simp [join]
  | cons l ls =>
    have hl := hls l List.mem_cons_self
    cases ls <;> simp [join, hl]

end Redraft.Text
