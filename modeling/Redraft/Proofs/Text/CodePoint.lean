import Mathlib.Tactic.Common
import Redraft.Proofs.Text.Keyed
import Redraft.Text.Blank
import Redraft.Text.Case
import Redraft.Text.Word

/-! Code points by their numbers: which are white space, and what becomes of them in upper case. -/
namespace Redraft.CodePoint

theorem value_of_ofNat? {n : Nat} {c : CodePoint} (h : ofNat? n = some c) : c.value = n := by
  by_cases hv : n.isValidChar
  · rw [ofNat?, dif_pos hv] at h
    obtain rfl := Option.some.inj h
    rfl
  · rw [ofNat?, dif_neg hv] at h
    by_cases hs : 0xD800 ≤ n ∧ n < 0xE000
    · rw [dif_pos hs] at h
      obtain rfl := Option.some.inj h
      simp only [value]
      omega
    · rw [dif_neg hs] at h
      cases h

theorem ofNat?_toNat (c : Char) : ofNat? c.toNat = some (.scalar c) := by
  have h : c.toNat.isValidChar := c.valid
  rw [ofNat?, dif_pos h]
  rfl

def blankNumbers : List Nat := [9, 10, 11, 12, 13, 0x1C, 0x1D, 0x1E, 0x1F, 0x20, 0x85, 0xA0, 0x1680,
  0x2000, 0x2001, 0x2002, 0x2003, 0x2004, 0x2005, 0x2006, 0x2007, 0x2008, 0x2009, 0x200A, 0x2028,
  0x2029, 0x202F, 0x205F, 0x3000]

theorem isBlank_iff (c : CodePoint) : c.isBlank ↔ c.value ∈ blankNumbers := by
  simp only [isBlank, blankNumbers, Bool.or_eq_true, Bool.and_eq_true, decide_eq_true_eq, beq_iff_eq,
    List.mem_cons, List.not_mem_nil, or_false]
  omega

theorem isWord_of_isBlank {c : CodePoint} (h : c.isBlank) : c.isWord = false := by
  have hall : ∀ n ∈ blankNumbers, ∀ d ∈ ofNat? n, d.isWord = false := by decide +kernel
  cases c with
  | surrogate i => rfl
  | scalar c => exact hall _ ((isBlank_iff _).1 h) _ (ofNat?_toNat c)

theorem upper_ne_nil (c : CodePoint) : c.upper ≠ [] := by
  have hlong : ∀ letters ∈ upperLong, letters.2.filterMap ofNat? ≠ [] := by decide +kernel
  simp only [upper]
  split
  · next letters h =>
    exact hlong (c.value, letters) (Keyed.mem_of_lookup h)
  · split <;> simp

theorem newline_notMem_upper {c : CodePoint} (hc : c ≠ Text.newline) : Text.newline ∉ c.upper := by
  have hlong : ∀ letters ∈ upperLong, Text.newline ∉ letters.2.filterMap ofNat? := by
    decide +kernel
  have hruns : ∀ run ∈ upperRuns, 10 < (run.1 : Int) + run.2.2.2 := by decide +kernel
  simp only [upper]
  split
  · next letters h =>
    exact hlong (c.value, letters) (Keyed.mem_of_lookup h)
  · split
    · next first last stride distance h =>
      have hrun := hruns _ (List.mem_of_find?_eq_some h)
      have hrange := List.find?_some h
      cases hu : ofNat? ((c.value : Int) + distance).toNat with
      | none => simpa using hc.symm
      | some u =>
        rw [Option.map_some, Option.getD_some, List.mem_singleton]
        rintro rfl
        have hv := value_of_ofNat? hu
        simp only [Bool.and_eq_true, decide_eq_true_eq] at hrange
        have : Text.newline.value = 10 := rfl
        simp only at hrun
        omega
    · simpa using hc.symm

theorem isBlank_of_mem_upper {c d : CodePoint} (hc : c.isBlank = false) (hd : d ∈ c.upper) :
    d.isBlank = false := by
  have hlong : ∀ letters ∈ upperLong, ∀ d ∈ letters.2.filterMap ofNat?, d.isBlank = false := by
    decide +kernel
  -- a run whose letters lie on one side of each blank
  have hruns : ∀ run ∈ upperRuns, ∀ n ∈ blankNumbers,
      (n : Int) < run.1 + run.2.2.2 ∨ (run.2.1 : Int) + run.2.2.2 < n := by decide +kernel
  simp only [upper] at hd
  split at hd
  · next letters h =>
    exact hlong (c.value, letters) (Keyed.mem_of_lookup h) d hd
  · split at hd
    · next first last stride distance h =>
      have hrun := hruns _ (List.mem_of_find?_eq_some h)
      have hrange := List.find?_some h
      cases hu : ofNat? ((c.value : Int) + distance).toNat with
      | none =>
        rw [hu] at hd
        obtain rfl : d = c := by simpa using hd
        exact hc
      | some u =>
        rw [hu, Option.map_some, Option.getD_some, List.mem_singleton] at hd
        subst hd
        by_contra hblank
        have hside := hrun _ ((isBlank_iff d).1 (by simpa using hblank))
        have hv := value_of_ofNat? hu
        simp only [Bool.and_eq_true, decide_eq_true_eq] at hrange hside
        have : 0 < d.value := by
          have hpos : ∀ n ∈ blankNumbers, 0 < n := by decide
          exact hpos _ ((isBlank_iff d).1 (by simpa using hblank))
        omega
    · obtain rfl : d = c := by simpa using hd
      exact hc

end Redraft.CodePoint
