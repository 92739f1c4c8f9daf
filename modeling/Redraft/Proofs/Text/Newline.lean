import Mathlib.Data.List.DropRight
import Redraft.Proofs.Text.Split
import Redraft.Text.Newline

/-!
Line ends. Those that are made the same are the same from then on, and then a reader going line by line
gets the lines between newlines.
-/
namespace Redraft.Text

theorem unifyNewlines_of_notMem {t : Text} (h : .scalar '\r' ∉ t) : unifyNewlines t = t := by
  induction t with
  | nil => rfl
  | cons c t ih =>
    rw [List.mem_cons, not_or] at h
    rw [unifyNewlines, if_neg (Ne.symm h.1), ih h.2]
    rintro rest rfl -
    exact h.1 rfl

theorem cr_notMem_unifyNewlines (t : Text) : .scalar '\r' ∉ unifyNewlines t := by
  fun_induction unifyNewlines t with
  | case1 => simp
  | case2 rest ih => simpa [newline] using ih
  | case3 c rest hpair ih =>
    rw [List.mem_cons, not_or]
    refine ⟨?_, ih⟩
    split
    · decide
    · next hc => exact Ne.symm hc

def endedLines (t : Text) : List Text :=
  if (lines t).getLast? = some [] then (lines t).dropLast else lines t

theorem newline_notMem_endedLines (t : Text) : ∀ line ∈ endedLines t, newline ∉ line := by
  intro line hline
  rw [endedLines] at hline
  split_ifs at hline
  · exact sep_notMem_split t line ((List.dropLast_sublist _).subset hline)
  · exact sep_notMem_split t line hline

theorem endedLines_newline (t : Text) : endedLines (newline :: t) = [] :: endedLines t := by
  have hcons : lines (newline :: t) = [] :: lines t := by rw [lines, split, if_pos rfl, lines]
  have hne : lines t ≠ [] := split_ne_nil newline t
  rw [endedLines, endedLines, hcons, List.getLast?_cons_of_ne_nil hne, List.dropLast_cons_of_ne_nil hne]
  split_ifs <;> rfl

theorem endedLines_cons {c : CodePoint} (hc : c ≠ newline) (t : Text) :
    endedLines (c :: t) = match endedLines t with
      | [] => [[c]]
      | line :: more => (c :: line) :: more := by
  have hcons : lines (c :: t) = match lines t with
      | [] => [[c]]
      | part :: parts => (c :: part) :: parts := by
    rw [lines, split, if_neg hc]
    rfl
  rw [endedLines, endedLines, hcons]
  cases hlines : lines t with
  | nil => exact absurd hlines (split_ne_nil newline t)
  | cons part parts =>
    cases parts with
    | nil => cases part <;> simp
    | cons next parts =>
      simp only [List.getLast?_cons_cons, List.dropLast_cons_cons]
      split_ifs <;> rfl

theorem trimLineEnd_cons {c : CodePoint} (hend : isLineEnd c = false) (line : Text) :
    trimLineEnd (c :: line) = c :: trimLineEnd line := by
  have hhere : [c].dropWhile isLineEnd = [c] := List.dropWhile_cons_of_neg (by simp [hend])
  rw [trimLineEnd, trimLineEnd, List.reverse_cons, List.dropWhile_append, hhere]
  split_ifs with hrest
  · rw [List.isEmpty_iff.1 hrest]
    rfl
  · rw [List.reverse_append]
    rfl

/-- Without carriage returns, a reader going line by line gets the lines between newlines. -/
theorem map_trimLineEnd_readLines {t : Text} (h : .scalar '\r' ∉ t) :
    (readLines t).map trimLineEnd = endedLines t := by
  induction t with
  | nil => rfl
  | cons c t ih =>
    rw [List.mem_cons, not_or] at h
    have hrest := ih h.2
    by_cases hc : c = newline
    · rw [hc, endedLines_newline, ← hrest, readLines, if_pos rfl]
      rfl
    · have hend : isLineEnd c = false := by simp [isLineEnd, Ne.symm h.1, hc]
      rw [endedLines_cons hc, ← hrest, readLines, if_neg hc]
      cases readLines t with
      | nil => simp [trimLineEnd, hend]
      | cons line more => simp [trimLineEnd_cons hend]

end Redraft.Text
