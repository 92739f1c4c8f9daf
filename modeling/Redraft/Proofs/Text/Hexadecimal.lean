import Mathlib.Tactic.IntervalCases
import Redraft.Text.Basic

/-!
Hexadecimal text shows its number: reading it back gives the number, so two numbers never have the
same text.
-/
namespace Redraft

namespace CodePoint

theorem hexDigit?_digitChar {d : Nat} (h : d < 16) :
    hexDigit? (.scalar d.digitChar) = some d := by
  interval_cases d <;> rfl

end CodePoint

namespace Text

def addDigit (base : Nat) (acc : Option Nat) (c : CodePoint) : Option Nat := do
  let n ← acc
  let d ← c.hexDigit?
  if d < base then some (n * base + d) else none

theorem digits?_eq_foldl (base : Nat) {t : Text} (h : t ≠ []) :
    digits? base t = t.foldl (addDigit base) (some 0) := by
  rw [digits?, if_neg (by simpa using h)]
  rfl

theorem addDigit_digitChar (n : Nat) {d : Nat} (h : d < 16) :
    addDigit 16 (some n) (.scalar d.digitChar) = some (n * 16 + d) := by
  simp [addDigit, CodePoint.hexDigit?_digitChar h, h]

theorem foldl_addDigit_zeros (k : Nat) :
    (List.replicate k (CodePoint.scalar '0')).foldl (addDigit 16) (some 0) = some 0 := by
  induction k with
  | zero => rfl
  | succ k ih => exact ih

theorem foldl_addDigit_toDigits (n : Nat) :
    ((Nat.toDigits 16 n).map CodePoint.scalar).foldl (addDigit 16) (some 0) = some n := by
  induction n using Nat.strong_induction_on with
  | _ n ih =>
    by_cases h : n < 16
    · rw [Nat.toDigits_of_lt_base h]
      simpa using addDigit_digitChar 0 h
    · rw [Nat.toDigits_of_base_le (by omega) (by omega), List.map_append, List.foldl_append,
        ih (n / 16) (by omega)]
      have hd : n % 16 < 16 := Nat.mod_lt _ (by omega)
      simp only [List.map_cons, List.map_nil, List.foldl_cons, List.foldl_nil,
        addDigit_digitChar _ hd]
      congr 1
      omega

theorem hex_ne_nil (w n : Nat) : hex w n ≠ [] := by
  simp [hex, Nat.toDigits_ne_nil]

theorem digits?_hex (w n : Nat) : digits? 16 (hex w n) = some n := by
  rw [digits?_eq_foldl 16 (hex_ne_nil w n), hex, List.foldl_append, foldl_addDigit_zeros,
    foldl_addDigit_toDigits]

theorem hex_injective (w : Nat) : Function.Injective (hex w) := by
  intro m n h
  have hm := digits?_hex w m
  rw [h, digits?_hex] at hm
  exact (Option.some.inj hm).symm

end Text

end Redraft
