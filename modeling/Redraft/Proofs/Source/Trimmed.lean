import Redraft.Proofs.Source.Binding
import Redraft.Proofs.Text.CodePoint

/-!
Binding lines without the white space at their ends. Where no spelling of the name has white space in
it, a line that binds the name does so still when it is trimmed at its start or at its end.
-/
namespace Redraft.Source

variable {names : List Text} {name l s t : Text}

def Solid (names : List Text) : Prop := ∀ name ∈ names, name ≠ [] ∧ ∀ c ∈ name, c.isBlank = false

theorem boundary_trimStart (h : Boundary s t) : Boundary (Text.trimStart s) t := by
  cases hs : Text.isBlank s with
  | true =>
    have hlast : s.getLast?.any (·.isWord) = false := by
      cases hl : s.getLast? with
      | none => rfl
      | some c =>
        exact CodePoint.isWord_of_isBlank (List.all_eq_true.1 hs c (List.mem_of_mem_getLast? hl))
    rw [Boundary, hlast] at h
    rwa [Boundary, Text.trimStart_eq_nil.2 hs]
  | false => rwa [Boundary, Text.getLast?_trimStart hs]

theorem boundary_trimEnd (h : Boundary s t) : Boundary s (Text.trimEnd t) := by
  cases t with
  | nil => exact h
  | cons c t =>
    rw [Text.trimEnd_cons]
    split
    · next hblank =>
      rw [Text.isBlank_cons, Bool.and_eq_true] at hblank
      have hc : ((c :: t).head?.any (·.isWord)) = false := CodePoint.isWord_of_isBlank hblank.1
      rwa [Boundary, hc] at h
    · exact h

theorem Solid.trimStart (h : Solid names) (hm : name ∈ names) (t : Text) :
    Text.trimStart (name ++ t) = name ++ t := by
  obtain ⟨hne, hfull⟩ := h name hm
  cases name with
  | nil => exact absurd rfl hne
  | cons c rest => exact List.dropWhile_cons_of_neg (by simp [hfull c List.mem_cons_self])

theorem Solid.trimEnd (h : Solid names) (hm : name ∈ names) (s t : Text) :
    Text.trimEnd (s ++ name ++ t) = s ++ name ++ Text.trimEnd t := by
  obtain ⟨hne, hfull⟩ := h name hm
  refine Text.trimEnd_append_of_last (fun c hc => hfull c ?_) t
  rw [List.getLast?_append_of_ne_nil _ hne] at hc
  exact List.mem_of_mem_getLast? hc

theorem solid_testMarks : Solid testMarks := by
  unfold Solid
  decide

theorem Binds.trimStart (hn : Solid names) (h : Binds names l) : Binds names (Text.trimStart l) := by
  cases h with
  -- two of the forms start with a sign, which is no white space
  | afterEquals isBlank mem ends => exact .afterEquals isBlank mem ends
  | inParens isBlank isBefore mem isAfter starts ends =>
    exact .inParens isBlank isBefore mem isAfter starts ends
  | @beforeEquals name blank rest mem isBlank =>
    have hbinds : Binds names (name ++ blank ++ "=" ++ rest) := .beforeEquals mem isBlank
    rw [List.append_assoc, List.append_assoc] at hbinds ⊢
    rwa [hn.trimStart mem]
  | @afterMark mark before name rest isMark mem starts ends =>
    have hbinds : Binds names (mark ++ before ++ name ++ rest) := .afterMark isMark mem starts ends
    rw [List.append_assoc, List.append_assoc] at hbinds ⊢
    rwa [solid_testMarks.trimStart isMark]
  | @beforeMark before name between mark rest mem starts ends isMark =>
    -- only what stands before the name is trimmed, be it blank as a whole or not
    have hstart : Text.trimStart (before ++ name ++ between ++ mark ++ rest) =
        Text.trimStart before ++ name ++ between ++ mark ++ rest := by
      simp only [List.append_assoc]
      rw [Text.trimStart_append]
      split
      · next hblank => rw [hn.trimStart mem, Text.trimStart_eq_nil.2 hblank, List.nil_append]
      · rfl
    rw [hstart]
    refine .beforeMark mem (boundary_trimStart starts) ?_ isMark
    rw [Boundary, List.getLast?_append_of_ne_nil _ (hn name mem).1] at ends ⊢
    exact ends

theorem Binds.trimEnd (hn : Solid names) (h : Binds names l) : Binds names (Text.trimEnd l) := by
  -- trimming stops at a sign of the form, as it does at a name or a mark
  have signed (t : Text) (ht : t ∈ [Text.ofString "=", Text.ofString ")"]) (s r : Text) :
      Text.trimEnd (s ++ t ++ r) = s ++ t ++ Text.trimEnd r := by
    have hsigns : Solid [Text.ofString "=", Text.ofString ")"] := by
      unfold Solid
      decide
    exact hsigns.trimEnd ht s r
  cases h with
  | @afterEquals blank name rest isBlank mem ends =>
    rw [hn.trimEnd mem]
    exact .afterEquals isBlank mem (boundary_trimEnd ends)
  | @inParens blank before name after rest isBlank isBefore mem isAfter starts ends =>
    have starts := boundary_trimEnd starts
    have ends := boundary_trimEnd ends
    rw [signed ")" (by simp)] at starts ends ⊢
    exact .inParens isBlank isBefore mem isAfter starts ends
  | @beforeEquals name blank rest mem isBlank =>
    rw [signed "=" (by simp)]
    exact .beforeEquals mem isBlank
  | @afterMark mark before name rest isMark mem starts ends =>
    have starts := boundary_trimEnd starts
    have hname := hn.trimEnd mem [] rest
    rw [List.nil_append] at hname
    rw [hname] at starts
    rw [hn.trimEnd mem]
    exact .afterMark isMark mem starts (boundary_trimEnd ends)
  | @beforeMark before name between mark rest mem starts ends isMark =>
    have starts := boundary_trimEnd starts
    have ends := boundary_trimEnd ends
    rw [solid_testMarks.trimEnd isMark] at starts ends ⊢
    exact .beforeMark mem starts ends isMark

end Redraft.Source
