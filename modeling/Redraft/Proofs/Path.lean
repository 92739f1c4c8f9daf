import Mathlib.Data.List.DropRight
import Mathlib.Tactic.SplitIfs
import Redraft.Path
import Redraft.Proofs.Text.Split

/-!
Paths and their texts. The path that is read from a text is read from its own text again, and the
ending of its name has one dot.
-/
namespace Redraft

namespace Path

variable {p : Path}

def Normal (p : Path) : Prop :=
  ∀ name ∈ p.names, slash ∉ name ∧ name ≠ [] ∧ name ≠ Text.ofString "."

theorem normal_ofText (t : Text) : (ofText t).Normal := by
  intro name hname
  obtain ⟨hmem, hkeep⟩ := List.mem_filter.1 hname
  simp only [Bool.and_eq_true, Bool.not_eq_true', List.isEmpty_eq_false_iff, decide_eq_true_eq] at hkeep
  exact ⟨Text.sep_notMem_split t name hmem, hkeep⟩

theorem namesOf_slash (t : Text) : namesOf (slash :: t) = namesOf t := by
  rw [namesOf, Text.split, if_pos rfl, List.filter_cons_of_neg (by simp), namesOf]

theorem namesOf_join (h : p.Normal) (hne : p.names ≠ []) :
    namesOf (Text.join [slash] p.names) = p.names := by
  rw [namesOf, Text.split_join hne fun name hn => (h name hn).1, List.filter_eq_self]
  intro name hn
  obtain ⟨-, hempty, hdot⟩ := h name hn
  simp [hempty, hdot]

theorem takeWhile_join (h : p.Normal) : (Text.join [slash] p.names).takeWhile (· = slash) = [] := by
  cases hnames : p.names with
  | nil => rfl
  | cons name rest =>
    obtain ⟨hslash, hne, -⟩ := h name (by simp [hnames])
    cases name with
    | nil => exact absurd rfl hne
    | cons c name =>
      have hc : c ≠ slash := fun he => hslash (by simp [he])
      cases rest <;> simp [Text.join, hc]

theorem ofText_toText (h : p.Normal) : ofText p.toText = p := by
  obtain ⟨anchor, names⟩ := p
  have hnames : namesOf (Text.join [slash] names) = names := by
    by_cases hne : names = []
    · rw [hne]
      rfl
    · exact namesOf_join h hne
  have hslashes := takeWhile_join h
  dsimp only at hslashes
  cases anchor with
  | relative =>
    by_cases hne : names = []
    · rw [hne]
      rfl
    · rw [toText, if_neg (by simp [hne]), ofText]
      simp only [anchorText, List.nil_append, hslashes, hnames]
      rfl
  | root =>
    have htext : toText ⟨.root, names⟩ = slash :: Text.join [slash] names := rfl
    rw [htext, ofText, namesOf_slash, hnames, List.takeWhile_cons_of_pos (by simp), hslashes]
    rfl
  | doubleRoot =>
    have htext : toText ⟨.doubleRoot, names⟩ = slash :: slash :: Text.join [slash] names := rfl
    rw [htext, ofText, namesOf_slash, namesOf_slash, hnames, List.takeWhile_cons_of_pos (by simp),
      List.takeWhile_cons_of_pos (by simp), hslashes]
    rfl

theorem suffix_of_name {stem ending : Text} (hname : p.name = stem ++ .scalar '.' :: ending)
    (hstem : stem ≠ []) (hending : ending ≠ []) (hdot : .scalar '.' ∉ ending) :
    p.suffix = .scalar '.' :: ending := by
  have hback : p.name.reverse = ending.reverse ++ .scalar '.' :: stem.reverse := by simp [hname]
  have hinside : ∀ c ∈ ending.reverse, decide (c ≠ .scalar '.') = true := by
    intro c hc
    rw [decide_eq_true_eq]
    rintro rfl
    exact hdot (List.mem_reverse.1 hc)
  have hlast : p.name.reverse.takeWhile (· ≠ .scalar '.') = ending.reverse := by
    rw [hback, List.takeWhile_append_of_pos hinside, List.takeWhile_cons_of_neg (by simp),
      List.append_nil]
  have hfront : p.name.reverse.drop (ending.reverse.length + 1) = stem.reverse := by
    rw [hback, List.drop_append]
    simp
  simp only [suffix, hlast, hfront]
  simp [hstem, hending]

theorem dot_notMem_suffix (p : Path) : .scalar '.' ∉ p.suffix.tail := by
  unfold suffix
  dsimp only
  split_ifs
  · simp
  · rw [List.tail_cons, List.mem_reverse]
    intro hmem
    simpa using List.mem_takeWhile_imp hmem

end Path

end Redraft
