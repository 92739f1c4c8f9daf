import Redraft.Text.Basic
import Mathlib.Tactic.Common

/-! The first occurrence of a mark in a text. A text is broken at a mark where it occurs first. -/
namespace Redraft.Text

/-- What stands before the first occurrence of a mark in a text, and what after it. -/
structure FirstAt (mark t before after : Text) : Prop where
  eq : t = before ++ (mark ++ after)
  first : ∀ b a, t = b ++ (mark ++ a) → before.length ≤ b.length

variable {mark t before after : Text} {c : CodePoint}

theorem dropStart?_eq_some {r : Text} : dropStart? mark t = some r ↔ t = mark ++ r := by
  unfold dropStart?
  split
  · next h =>
    obtain ⟨s, rfl⟩ := List.isPrefixOf_iff_prefix.1 h
    simp [eq_comm]
  · next h =>
    refine ⟨fun hn => by simp at hn, ?_⟩
    rintro rfl
    exact absurd (List.isPrefixOf_iff_prefix.2 (List.prefix_append _ _)) h

theorem dropStart?_eq_none : dropStart? mark t = none ↔ ¬ mark <+: t := by
  simp [dropStart?]

theorem FirstAt.occurs (h : FirstAt mark t before after) : mark <:+: t :=
  ⟨before, after, by rw [h.eq, List.append_assoc]⟩

theorem FirstAt.unique {b a : Text} (h : FirstAt mark t before after) (h' : FirstAt mark t b a) :
    before = b ∧ after = a := by
  have hlen : before.length = b.length :=
    Nat.le_antisymm (h.first b a h'.eq) (h'.first before after h.eq)
  have heq : before ++ (mark ++ after) = b ++ (mark ++ a) := by rw [← h.eq, h'.eq]
  obtain ⟨rfl, hrest⟩ := List.append_inj heq hlen
  exact ⟨rfl, List.append_cancel_left hrest⟩

theorem firstAt_here (h : t = mark ++ after) : FirstAt mark t [] after := ⟨h, by simp⟩

theorem firstAt_cons (hc : ¬ mark <+: c :: t) :
    FirstAt mark (c :: t) (c :: before) after ↔ FirstAt mark t before after := by
  constructor
  · intro h
    refine ⟨(List.cons.inj h.eq).2, fun b a hb => ?_⟩
    have := h.first (c :: b) a (by rw [hb]; rfl)
    simpa using this
  · intro h
    refine ⟨by rw [h.eq]; rfl, fun b a hb => ?_⟩
    cases b with
    | nil => exact absurd ⟨a, hb.symm⟩ hc
    | cons d b =>
      have := h.first b a (List.cons.inj hb).2
      simpa using this

theorem breakOn?_eq_some : breakOn? mark t = some (before, after) ↔ FirstAt mark t before after := by
  induction t generalizing before with
  | nil =>
    constructor
    · intro h
      cases mark with
      | nil => simp [breakOn?] at h; obtain ⟨rfl, rfl⟩ := h; exact firstAt_here rfl
      | cons m mark => simp [breakOn?] at h
    · intro h
      obtain ⟨rfl, h2⟩ := List.append_eq_nil_iff.1 h.eq.symm
      obtain ⟨rfl, rfl⟩ := List.append_eq_nil_iff.1 h2
      rfl
  | cons c t ih =>
    unfold breakOn?
    split
    · next hp =>
      obtain ⟨r, hr⟩ := List.isPrefixOf_iff_prefix.1 hp
      have here : FirstAt mark (c :: t) [] r := firstAt_here hr.symm
      have hdrop : (c :: t).drop mark.length = r := by rw [← hr, List.drop_left]
      rw [hdrop, Option.some_inj, Prod.mk.injEq]
      constructor
      · rintro ⟨rfl, rfl⟩
        exact here
      · exact here.unique
    · next hp =>
      have hc : ¬ mark <+: c :: t := fun h => hp (List.isPrefixOf_iff_prefix.2 h)
      rw [Option.map_eq_some_iff]
      constructor
      · rintro ⟨⟨b, a⟩, hb, heq⟩
        obtain ⟨rfl, rfl⟩ := Prod.mk.inj heq
        exact (firstAt_cons hc).2 (ih.1 hb)
      · intro h
        cases before with
        | nil => exact absurd ⟨after, h.eq.symm⟩ hc
        | cons d b =>
          obtain rfl : c = d := (List.cons.inj h.eq).1
          exact ⟨(b, after), ih.2 ((firstAt_cons hc).1 h), rfl⟩

theorem exists_firstAt (h : mark <:+: t) : ∃ before after, FirstAt mark t before after := by
  induction t with
  | nil =>
    obtain rfl := List.infix_nil.1 h
    exact ⟨[], [], firstAt_here rfl⟩
  | cons c t ih =>
    by_cases hc : mark <+: c :: t
    · obtain ⟨r, hr⟩ := hc
      exact ⟨[], r, firstAt_here hr.symm⟩
    · obtain ⟨b, a, hb⟩ := ih ((List.infix_cons_iff.1 h).resolve_left hc)
      exact ⟨c :: b, a, (firstAt_cons hc).2 hb⟩

theorem breakOn?_eq_none : breakOn? mark t = none ↔ ¬ mark <:+: t := by
  constructor
  · intro h hi
    obtain ⟨b, a, hb⟩ := exists_firstAt hi
    rw [breakOn?_eq_some.2 hb] at h
    cases h
  · intro h
    rw [Option.eq_none_iff_forall_ne_some]
    rintro ⟨b, a⟩ hb
    exact h (breakOn?_eq_some.1 hb).occurs

/-! Marks in texts that are put together. -/

variable {s : Text} {x : CodePoint}

theorem prefix_of_append_cons (hs : s ≠ []) (hx : x ∉ mark.tail) (h : mark <+: s ++ x :: t) :
    mark <+: s := by
  rcases List.prefix_or_prefix_of_prefix h (List.prefix_append s (x :: t)) with hmark | hlong
  · exact hmark
  · obtain ⟨e, rfl⟩ := hlong
    cases e with
    | nil =>
      simp only [List.append_nil, List.prefix_rfl]
    | cons y e =>
      obtain rfl : y = x := by
        obtain ⟨a, ha⟩ := h
        rw [List.append_assoc] at ha
        exact (List.cons.inj (List.append_cancel_left ha)).1
      rw [List.tail_append_of_ne_nil hs] at hx
      exact absurd (List.mem_append_right _ List.mem_cons_self) hx

theorem infix_append_cons (hx : x ∉ mark.tail) :
    mark <:+: s ++ x :: t ↔ mark <:+: s ∨ mark <:+: x :: t := by
  constructor
  · intro h
    induction s with
    | nil => exact .inr h
    | cons y s ih =>
      rw [List.cons_append, List.infix_cons_iff] at h
      rcases h with hhere | hlater
      · exact .inl (prefix_of_append_cons (List.cons_ne_nil y s) hx hhere).isInfix
      · exact (ih hlater).imp_left List.infix_cons
  · rintro (h | h)
    · exact h.trans (List.prefix_append _ _).isInfix
    · exact h.trans (List.suffix_append _ _).isInfix

/-- A mark does not start in a text without its first code point. -/
theorem infix_append_iff_right (hc : c ∉ s) : c :: mark <:+: s ++ t ↔ c :: mark <:+: t := by
  induction s with
  | nil => rfl
  | cons y s ih =>
    rw [List.mem_cons, not_or] at hc
    rw [List.cons_append, List.infix_cons_iff, ih hc.2, or_iff_right]
    rintro ⟨a, ha⟩
    exact hc.1 (List.cons.inj ha).1

/-- A mark that does not overlap itself is first where it stands if it is not before that. -/
theorem firstAt_append (hc : c ∉ mark) (h : ¬ c :: mark <:+: before) (after : Text) :
    FirstAt (c :: mark) (before ++ (c :: mark ++ after)) before after := by
  induction before with
  | nil => exact firstAt_here rfl
  | cons y before ih =>
    have hhere : ¬ c :: mark <+: y :: (before ++ (c :: mark ++ after)) := fun hp =>
      h (prefix_of_append_cons (List.cons_ne_nil y before) hc hp).isInfix
    rw [List.cons_append]
    exact (firstAt_cons hhere).2 (ih fun hb => h (List.infix_cons hb))

end Redraft.Text
