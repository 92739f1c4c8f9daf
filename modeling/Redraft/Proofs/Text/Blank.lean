import Redraft.Text.Blank
import Mathlib.Data.List.DropRight

/-! Trimming, from the start of a text and code point by code point. -/
namespace Redraft.Text

theorem isBlank_append (s t : Text) : isBlank (s ++ t) = (isBlank s && isBlank t) := List.all_append

theorem isBlank_cons (c : CodePoint) (t : Text) : isBlank (c :: t) = (c.isBlank && isBlank t) := rfl

theorem trimStart_eq_nil {t : Text} : trimStart t = [] ↔ isBlank t := by
  rw [trimStart, List.dropWhile_eq_nil_iff, isBlank, List.all_eq_true]

theorem trimEnd_cons (c : CodePoint) (t : Text) :
    trimEnd (c :: t) = if isBlank (c :: t) then [] else c :: trimEnd t := by
  have hempty : (t.reverse.dropWhile (·.isBlank)).isEmpty = isBlank t := by
    rw [Bool.eq_iff_iff, List.isEmpty_iff, List.dropWhile_eq_nil_iff, isBlank, List.all_eq_true]
    simp only [List.mem_reverse]
  rw [trimEnd, List.reverse_cons, List.dropWhile_append, hempty, isBlank_cons]
  by_cases ht : isBlank t
  · have htrim : trimEnd t = [] := by
      rw [trimEnd, List.isEmpty_iff.1 (hempty.trans ht), List.reverse_nil]
    rw [if_pos ht, htrim, ht, Bool.and_true]
    by_cases hc : c.isBlank
    · rw [if_pos hc, List.dropWhile_cons_of_pos hc]
      rfl
    · rw [if_neg hc, List.dropWhile_cons_of_neg hc]
      rfl
  · rw [if_neg ht, if_neg (by simp [ht])]
    simp [trimEnd]

theorem trimEnd_eq_nil {t : Text} : trimEnd t = [] ↔ isBlank t := by
  rw [trimEnd, List.reverse_eq_nil_iff, List.dropWhile_eq_nil_iff, isBlank, List.all_eq_true]
  simp only [List.mem_reverse]

theorem isBlank_trimStart (t : Text) : isBlank (trimStart t) = isBlank t := by
  have hblank : isBlank (t.takeWhile (·.isBlank)) = true :=
    List.all_eq_true.2 fun c hc => List.mem_takeWhile_imp hc
  calc isBlank (trimStart t)
      = (isBlank (t.takeWhile (·.isBlank)) && isBlank (trimStart t)) := by
        rw [hblank, Bool.true_and]
    _ = isBlank (t.takeWhile (·.isBlank) ++ trimStart t) := (isBlank_append _ _).symm
    _ = isBlank t := by rw [trimStart, List.takeWhile_append_dropWhile]

theorem getLast?_trimStart {t : Text} (h : isBlank t = false) : (trimStart t).getLast? = t.getLast? := by
  have hne : trimStart t ≠ [] := fun he => by rw [trimStart_eq_nil.1 he] at h; cases h
  conv_rhs => rw [← List.takeWhile_append_dropWhile (p := (·.isBlank)) (l := t)]
  exact (List.getLast?_append_of_ne_nil _ hne).symm

theorem trim_eq_nil {t : Text} : trim t = [] ↔ isBlank t := by
  rw [trim, trimEnd_eq_nil, isBlank_trimStart]

theorem trimStart_append (s t : Text) :
    trimStart (s ++ t) = if isBlank s then trimStart t else trimStart s ++ t := by
  have hempty : (s.dropWhile (·.isBlank)).isEmpty = isBlank s := by
    rw [Bool.eq_iff_iff, List.isEmpty_iff]
    exact trimStart_eq_nil
  rw [trimStart, List.dropWhile_append, hempty]
  rfl

theorem trimEnd_append (s t : Text) :
    trimEnd (s ++ t) = if isBlank t then trimEnd s else s ++ trimEnd t := by
  have hempty : (t.reverse.dropWhile (·.isBlank)).isEmpty = isBlank t := by
    rw [Bool.eq_iff_iff, List.isEmpty_iff, ← trimEnd_eq_nil, trimEnd, List.reverse_eq_nil_iff]
  rw [trimEnd, List.reverse_append, List.dropWhile_append, hempty]
  split
  · rfl
  · rw [List.reverse_append, List.reverse_reverse, trimEnd]

theorem trimEnd_append_of_last {s : Text} (h : ∀ c ∈ s.getLast?, c.isBlank = false) (t : Text) :
    trimEnd (s ++ t) = s ++ trimEnd t := by
  rw [trimEnd_append]
  split
  · next ht =>
    have hs : trimEnd s = s := List.rdropWhile_eq_self_iff.2 fun hl => by
      simp [h _ (List.getLast?_eq_some_getLast hl)]
    rw [hs, trimEnd_eq_nil.2 ht, List.append_nil]
  · rfl

theorem trimStart_trimStart (t : Text) : trimStart (trimStart t) = trimStart t :=
  List.dropWhile_idempotent _ t

theorem trimEnd_trimEnd (t : Text) : trimEnd (trimEnd t) = trimEnd t := by
  simp only [trimEnd, List.reverse_reverse, List.dropWhile_idempotent]

theorem isBlank_trimEnd (t : Text) : isBlank (trimEnd t) = isBlank t := by
  rw [Bool.eq_iff_iff, ← trimEnd_eq_nil, trimEnd_trimEnd, trimEnd_eq_nil]

theorem isBlank_trim (t : Text) : isBlank (trim t) = isBlank t := by
  rw [trim, isBlank_trimEnd, isBlank_trimStart]

theorem trimStart_trimEnd (t : Text) : trimStart (trimEnd t) = trimEnd (trimStart t) := by
  have hblank : isBlank (t.takeWhile (·.isBlank)) = true :=
    List.all_eq_true.2 fun c hc => List.mem_takeWhile_imp hc
  cases hs : trimStart t with
  | nil =>
    rw [trimEnd_eq_nil.2 (trimStart_eq_nil.1 hs)]
    rfl
  | cons c rest =>
    have hc : c.isBlank = false := by
      have := List.head?_dropWhile_not (·.isBlank) t
      rw [show t.dropWhile (·.isBlank) = c :: rest from hs] at this
      simpa using this
    have hfull : isBlank (c :: rest) = false := by rw [isBlank_cons, hc, Bool.false_and]
    have ht : t = t.takeWhile (·.isBlank) ++ (c :: rest) := by
      rw [← hs, trimStart, List.takeWhile_append_dropWhile]
    rw [ht, trimEnd_append, hfull, if_neg Bool.false_ne_true, trimStart_append, hblank, if_pos rfl,
      trimEnd_cons, hfull, if_neg Bool.false_ne_true]
    exact List.dropWhile_cons_of_neg (by simp [hc])

theorem trim_trimStart (t : Text) : trim (trimStart t) = trim t := by
  rw [trim, trimStart_trimStart, trim]

theorem trim_trimEnd (t : Text) : trim (trimEnd t) = trim t := by
  rw [trim, trimStart_trimEnd, trimEnd_trimEnd, trim]

theorem trim_trim (t : Text) : trim (trim t) = trim t := by
  calc trim (trim t) = trim (trimStart t) := trim_trimEnd _
    _ = trim t := trim_trimStart t

theorem isInfix_trim (t : Text) : trim t <:+: t := by
  have hstart : trimStart t <:+: t := (List.dropWhile_suffix _).isInfix
  have hend : trimEnd (trimStart t) <:+: trimStart t := (List.rdropWhile_prefix _ _).isInfix
  exact hend.trans hstart

end Redraft.Text
