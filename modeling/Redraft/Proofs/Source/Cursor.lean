import Redraft.Proofs.Text.Occurrence
import Redraft.Source.Cursor
import Mathlib.Data.List.TakeWhile

/-! Moves of a cursor: `Passes w c d` goes from `c` over the text `w` to `d`. The places that a
search finds are the ends of such moves. -/
namespace Redraft

namespace Cursor

/-- From one place over a text to another. -/
structure Passes (w : Text) (c d : Cursor) : Prop where
  rest : c.rest = w ++ d.rest
  before : d.before = w.getLast?.or c.before

theorem Passes.refl (c : Cursor) : Passes [] c c := ⟨rfl, rfl⟩

theorem Passes.trans {v w : Text} {c d e : Cursor} (h1 : Passes v c d) (h2 : Passes w d e) :
    Passes (v ++ w) c e := by
  refine ⟨by rw [h1.rest, h2.rest, List.append_assoc], ?_⟩
  rw [h2.before, h1.before, List.getLast?_append]
  cases w.getLast? <;> rfl

theorem Passes.split {v w : Text} {c e : Cursor} (h : Passes (v ++ w) c e) :
    ∃ d, Passes v c d ∧ Passes w d e := by
  refine ⟨⟨v.getLast?.or c.before, w ++ e.rest⟩, ⟨by rw [h.rest, List.append_assoc], rfl⟩, rfl, ?_⟩
  rw [h.before, List.getLast?_append]
  cases w.getLast? <;> rfl

theorem skip?_eq_some {w : Text} {c d : Cursor} : c.skip? w = some d ↔ Passes w c d := by
  obtain ⟨b, r⟩ := d
  simp only [skip?, Option.map_eq_some_iff, Text.dropStart?_eq_some, mk.injEq]
  constructor
  · rintro ⟨s, hs, hb, rfl⟩
    exact ⟨hs, hb.symm⟩
  · rintro ⟨hs, hb⟩
    exact ⟨r, hs, hb.symm, rfl⟩

theorem mem_stretch {allowed : CodePoint → Bool} {t : Text} {b : Option CodePoint} {d : Cursor} :
    d ∈ stretch allowed b t ↔ ∃ w : Text, (∀ x ∈ w, allowed x) ∧ Passes w ⟨b, t⟩ d := by
  induction t generalizing b with
  | nil =>
    simp only [stretch, List.mem_singleton]
    constructor
    · rintro rfl
      exact ⟨[], by simp, Passes.refl _⟩
    · rintro ⟨w, -, hr, hb⟩
      obtain ⟨rfl, hd⟩ := List.append_eq_nil_iff.1 hr.symm
      cases d
      simp_all
  | cons x rest ih =>
    -- the empty move ends here; any other begins with `x`
    have here : ∀ w, Passes w ⟨b, x :: rest⟩ d → w = [] → d = ⟨b, x :: rest⟩ := by
      rintro w ⟨hr, hb⟩ rfl
      cases d
      simp_all
    have later : ∀ w, Passes (x :: w) ⟨b, x :: rest⟩ d ↔ Passes w ⟨some x, rest⟩ d := by
      intro w
      refine ⟨fun h => ?_, fun h => ?_⟩
      · obtain ⟨m, h1, h2⟩ := Passes.split (v := [x]) h
        have hm : m = ⟨some x, rest⟩ := by
          obtain ⟨mb, mr⟩ := m
          have hr : x :: rest = [x] ++ mr := h1.rest
          have hb : mb = some x := h1.before
          simp_all
        exact hm ▸ h2
      · exact Passes.trans (v := [x]) ⟨rfl, rfl⟩ h
    unfold stretch
    split
    · next hx =>
      rw [List.mem_append, ih, List.mem_singleton]
      constructor
      · rintro (⟨w, hw, h⟩ | rfl)
        · exact ⟨x :: w, by simpa [hx] using hw, (later w).2 h⟩
        · exact ⟨[], by simp, Passes.refl _⟩
      · rintro ⟨w, hw, h⟩
        cases w with
        | nil => exact Or.inr (here [] h rfl)
        | cons y w =>
          obtain rfl : x = y := by simpa using (List.cons.inj h.rest).1
          exact Or.inl ⟨w, fun z hz => hw z (List.mem_cons_of_mem _ hz), (later w).1 h⟩
    · next hx =>
      rw [List.mem_singleton]
      constructor
      · rintro rfl
        exact ⟨[], by simp, Passes.refl _⟩
      · rintro ⟨w, hw, h⟩
        cases w with
        | nil => exact here [] h rfl
        | cons y w =>
          obtain rfl : x = y := by simpa using (List.cons.inj h.rest).1
          exact absurd (hw x List.mem_cons_self) hx

theorem mem_reach {allowed : CodePoint → Bool} {c d : Cursor} :
    d ∈ c.reach allowed ↔ ∃ w : Text, (∀ x ∈ w, allowed x) ∧ Passes w c d := mem_stretch

theorem passes_advance (allowed : CodePoint → Bool) (c : Cursor) :
    Passes (c.rest.takeWhile allowed) c (c.advance allowed) :=
  ⟨List.takeWhile_append_dropWhile.symm, rfl⟩

theorem skip?_advance {allowed : CodePoint → Bool} {x : CodePoint} (hx : allowed x = false)
    {c d : Cursor} : (c.advance allowed).skip? [x] = some d ↔
      ∃ w : Text, (∀ y ∈ w, allowed y) ∧ Passes (w ++ [x]) c d := by
  rw [skip?_eq_some]
  constructor
  · intro h
    exact ⟨_, fun y hy => List.mem_takeWhile_imp hy, (passes_advance allowed c).trans h⟩
  · rintro ⟨w, hw, h⟩
    obtain ⟨m, h1, h2⟩ := h.split
    have hc : c.rest = w ++ x :: d.rest := by rw [h.rest]; simp
    have htake : c.rest.takeWhile allowed = w := by
      rw [hc, List.takeWhile_append_of_pos hw, List.takeWhile_cons_of_neg (by simp [hx]), List.append_nil]
    have hdrop : c.rest.dropWhile allowed = x :: d.rest := by
      rw [hc, List.dropWhile_append_of_pos hw, List.dropWhile_cons_of_neg (by simp [hx])]
    refine ⟨hdrop, ?_⟩
    rw [h2.before]
    rfl

end Cursor

end Redraft
