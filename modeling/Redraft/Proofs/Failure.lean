import Mathlib.Data.List.Forall2
import Redraft.Failure

/-!
Computations that can fail. One that gives a value gives one at each of its steps, and what it can
fail with is put together from what its steps can fail with.
-/
namespace Redraft

variable {α β ε ε' : Type}

theorem bind_eq_ok {x : Except ε α} {k : α → Except ε β} {b : β} :
    (x >>= k) = .ok b ↔ ∃ a, x = .ok a ∧ k a = .ok b := by
  cases x with
  | error e =>
    constructor
    · intro h; cases h
    · rintro ⟨a, ha, -⟩; cases ha
  | ok a =>
    constructor
    · intro h; exact ⟨a, rfl, h⟩
    · rintro ⟨a', ha, h⟩
      rw [Except.ok.inj ha]
      exact h

theorem bind_eq_error {x : Except ε α} {k : α → Except ε β} {e : ε} :
    (x >>= k) = .error e ↔ x = .error e ∨ ∃ a, x = .ok a ∧ k a = .error e := by
  cases x with
  | error e' =>
    constructor
    · intro h
      cases h
      exact .inl rfl
    · rintro (h | ⟨a, ha, -⟩)
      · cases h
        rfl
      · cases ha
  | ok a =>
    constructor
    · intro h
      exact .inr ⟨a, rfl, h⟩
    · rintro (h | ⟨a', ha, h⟩)
      · cases h
      · cases ha
        exact h

theorem toOption_eq_some {x : Except ε α} {a : α} : x.toOption = some a ↔ x = .ok a := by
  cases x <;> simp [Except.toOption]

theorem forall₂_of_mapM_eq_ok {k : α → Except ε β} {xs : List α} {ys : List β}
    (h : xs.mapM k = .ok ys) : List.Forall₂ (fun x y => k x = .ok y) xs ys := by
  induction xs generalizing ys with
  | nil =>
    cases h
    exact .nil
  | cons x xs ih =>
    rw [List.mapM_cons] at h
    obtain ⟨y, hy, h⟩ := bind_eq_ok.1 h
    obtain ⟨ys', hys, h⟩ := bind_eq_ok.1 h
    cases h
    exact .cons hy (ih hys)

theorem mapM_eq_ok_of_forall₂ {k : α → Except ε β} {xs : List α} {ys : List β}
    (h : List.Forall₂ (fun x y => k x = .ok y) xs ys) : xs.mapM k = .ok ys := by
  induction h with
  | nil => rfl
  | cons hx _ ih =>
    rw [List.mapM_cons, hx, ih]
    rfl

theorem split_of_mapM_eq_error {k : α → Except ε β} {xs : List α} {e : ε}
    (h : xs.mapM k = .error e) : ∃ before x after, xs = before ++ x :: after ∧
      (∀ y ∈ before, ∃ b, k y = .ok b) ∧ k x = .error e := by
  induction xs with
  | nil => cases h
  | cons x xs ih =>
    rw [List.mapM_cons] at h
    rcases bind_eq_error.1 h with hx | ⟨b, hb, h⟩
    · exact ⟨[], x, xs, rfl, by simp, hx⟩
    · rcases bind_eq_error.1 h with hxs | ⟨bs, -, h⟩
      · obtain ⟨before, y, after, rfl, hbefore, hy⟩ := ih hxs
        refine ⟨x :: before, y, after, rfl, ?_, hy⟩
        intro z hz
        rcases List.mem_cons.1 hz with rfl | hz
        · exact ⟨b, hb⟩
        · exact hbefore z hz
      · cases h

theorem mapM_eq_error_of_first {k : α → Except ε β} {before after : List α} {x : α} {e : ε}
    (hbefore : ∀ y ∈ before, ∃ b, k y = .ok b) (hx : k x = .error e) :
    (before ++ x :: after).mapM k = .error e := by
  induction before with
  | nil =>
    rw [List.nil_append, List.mapM_cons, hx]
    rfl
  | cons y before ih =>
    obtain ⟨b, hb⟩ := hbefore y List.mem_cons_self
    rw [List.cons_append, List.mapM_cons, hb, ih fun z hz => hbefore z (List.mem_cons_of_mem y hz)]
    rfl

theorem map_eq_ok {x : Except ε α} {k : α → β} {b : β} :
    x.map k = .ok b ↔ ∃ a, x = .ok a ∧ k a = b := by
  cases x <;> simp [Except.map]

theorem mapError_eq_ok {x : Except ε α} {k : ε → ε'} {a : α} :
    x.mapError k = .ok a ↔ x = .ok a := by
  cases x with
  | error e =>
    constructor
    · intro h; cases h
    · intro h; cases h
  | ok b =>
    constructor
    · intro h; cases h; rfl
    · intro h; cases h; rfl

theorem mapError_eq_error {x : Except ε α} {k : ε → ε'} {e : ε'} :
    x.mapError k = .error e ↔ ∃ e', x = .error e' ∧ k e' = e := by
  cases x <;> simp [Except.mapError]

theorem mapError_map (k : α → β) (g : ε → ε') (x : Except ε α) :
    (k <$> x).mapError g = k <$> x.mapError g := by
  cases x <;> rfl

/-- All that a computation can fail with is of a kind. -/
def FailsWith (P : ε → Prop) (x : Except ε α) : Prop := ∀ e, x = .error e → P e

namespace FailsWith

variable {P Q : ε → Prop}

theorem ok (a : α) : FailsWith P (.ok a : Except ε α) := by
  intro e h
  cases h

theorem error {e : ε} (h : P e) : FailsWith P (.error e : Except ε α) := by
  intro e' he
  cases he
  exact h

theorem mono {x : Except ε α} (h : FailsWith P x) (hPQ : ∀ e, P e → Q e) : FailsWith Q x :=
  fun e he => hPQ e (h e he)

theorem bind {x : Except ε α} {k : α → Except ε β} (hx : FailsWith P x)
    (hk : ∀ a, x = .ok a → FailsWith P (k a)) : FailsWith P (x >>= k) := by
  cases x with
  | error e =>
    intro e' he
    cases he
    exact hx e rfl
  | ok a => exact hk a rfl

theorem map {x : Except ε α} (k : α → β) (hx : FailsWith P x) : FailsWith P (x.map k) := by
  cases x with
  | error e =>
    intro e' he
    cases he
    exact hx e rfl
  | ok a => exact ok (k a)

theorem mapError {P : ε' → Prop} {x : Except ε α} {k : ε → ε'} (hx : FailsWith (fun e => P (k e)) x) :
    FailsWith P (x.mapError k) := by
  cases x with
  | error e =>
    intro e' he
    cases he
    exact hx e rfl
  | ok a => exact ok a

theorem mapM {k : α → Except ε β} {xs : List α} (h : ∀ x ∈ xs, FailsWith P (k x)) :
    FailsWith P (xs.mapM k) := by
  induction xs with
  | nil => exact ok []
  | cons x xs ih =>
    rw [List.mapM_cons]
    refine (h x List.mem_cons_self).bind fun b _ => ?_
    refine (ih fun y hy => h y (List.mem_cons_of_mem x hy)).bind fun bs _ => ?_
    exact ok (b :: bs)

end FailsWith

/-- A text is not read to its end because it goes beyond a limit. -/
inductive Json.Failure.Limit : Json.Failure → Prop
  | longInteger (digits : Nat) : Limit (.longInteger digits)
  | tooDeep (nest : Json.Nest) : Limit (.tooDeep nest)

end Redraft
