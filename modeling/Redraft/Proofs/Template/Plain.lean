import Redraft.Template.Token

/-!
Text without tags. A search for a tag goes through such a text up to the end of its last line, and
on behind it.
-/
namespace Redraft.Template

variable {marks : List CodePoint} {s t : Text}

/-- Whether a tag opens at the start of a text: a brace and one of some marks. -/
def opens (marks : List CodePoint) : Text → Bool
  | c :: d :: _ => c = .scalar '\x7b' && marks.contains d
  | _ => false

def isPlain (marks : List CodePoint) : Text → Bool
  | [] => true
  | c :: rest => !opens marks (c :: rest) && isPlain marks rest

theorem opens_append_newline (hmarks : Text.newline ∉ marks) (s t : Text) :
    opens marks (s ++ Text.newline :: t) = opens marks s := by
  match s with
  | [] => cases t <;> rfl
  | [c] => simp [opens, hmarks]
  | _ :: _ :: _ => rfl

theorem isPlain_append_newline (hmarks : Text.newline ∉ marks) (s t : Text) :
    isPlain marks (s ++ Text.newline :: t) = (isPlain marks s && isPlain marks t) := by
  induction s with
  | nil =>
    have hopens := opens_append_newline hmarks [] t
    change (!opens marks (Text.newline :: t) && isPlain marks t) = isPlain marks t
    rw [← List.nil_append (Text.newline :: t), hopens]
    rfl
  | cons c s ih =>
    rw [List.cons_append, isPlain, ih, ← List.cons_append, opens_append_newline hmarks, isPlain,
      Bool.and_assoc]

theorem isPlain_join (hmarks : Text.newline ∉ marks) {ls : List Text} (h : ls.all (isPlain marks)) :
    isPlain marks (Text.join [Text.newline] ls) := by
  induction ls with
  | nil => rfl
  | cons l ls ih =>
    rw [List.all_cons, Bool.and_eq_true] at h
    cases ls with
    | nil => exact h.1
    | cons m ls =>
      rw [Text.join, List.append_assoc, List.singleton_append, isPlain_append_newline hmarks, h.1, ih h.2]
      · rfl
      · simp

theorem firstPlace_of_isPlain {α : Type} {found? : Text → Option α}
    (hfound : ∀ t, opens marks t = false → found? t = none) (hmarks : Text.newline ∉ marks)
    (hs : isPlain marks s) (t : Text) : firstPlace found? (s ++ Text.newline :: t) =
      (firstPlace found? t).map fun (before, a) => (s ++ Text.newline :: before, a) := by
  induction s with
  | nil =>
    have hnone := hfound _ (opens_append_newline hmarks [] t)
    rw [List.nil_append] at hnone ⊢
    rw [firstPlace, hnone]
    rfl
  | cons c s ih =>
    rw [isPlain, Bool.and_eq_true, Bool.not_eq_true'] at hs
    have hnone := hfound _ ((opens_append_newline hmarks (c :: s) t).trans hs.1)
    rw [List.cons_append] at hnone ⊢
    rw [firstPlace, hnone, ih hs.2, Option.map_map]
    rfl

theorem dropStart?_of_not_opens {mark : CodePoint} (hmark : mark ∈ marks) (h : opens marks t = false) :
    Text.dropStart? [.scalar '\x7b', mark] t = none := by
  match t with
  | [] => rfl
  | [c] => simp [Text.dropStart?]
  | c :: d :: rest =>
    simp only [opens, Bool.and_eq_false_iff, decide_eq_false_iff_not, List.contains_eq_mem] at h
    rw [Text.dropStart?, if_neg]
    simp only [List.isPrefixOf, Bool.and_eq_true, beq_iff_eq]
    rintro ⟨rfl, rfl, -⟩
    simp [hmark] at h

def tagMarks : List CodePoint := [.scalar '\x7b', .scalar '%', .scalar '#']

def blockMarks : List CodePoint := [.scalar '%']

theorem wordTag?_eq_none {word : Text} {close? : Text → Option (Text × Bool)}
    (hmark : .scalar '%' ∈ marks) (h : opens marks t = false) : wordTag? word close? t = none := by
  have hdrop : Text.dropStart? blockOpen t = none := dropStart?_of_not_opens hmark h
  rw [wordTag?, hdrop]
  rfl

theorem opening?_eq_none (h : opens tagMarks t = false) : opening? t = none := by
  have houtput : Text.dropStart? outputOpen t = none := dropStart?_of_not_opens (by decide) h
  have hcomment : Text.dropStart? commentOpen t = none := dropStart?_of_not_opens (by decide) h
  have hblock : Text.dropStart? blockOpen t = none := dropStart?_of_not_opens (by decide) h
  have hraw : wordTag? "raw" rawClosing? t = none := wordTag?_eq_none (by decide) h
  simp only [opening?, hraw, houtput, hcomment, hblock]
  rfl

end Redraft.Template
