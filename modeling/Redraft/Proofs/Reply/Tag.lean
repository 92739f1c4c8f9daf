import Redraft.Proofs.Text.Blank
import Redraft.Proofs.Text.Occurrence
import Redraft.Reply.Tag

/-! The search for a tagged body breaks the text at the first opening tag and what follows at the
first closing tag. No later opening tag helps when that fails, and the white space that the search
leaves out is that of trimming. -/
namespace Redraft.Tag

open Text

variable {opening closing t u before after : Text}

theorem firstFrom_eq_none {α : Type} {find? : Text → Option α} :
    firstFrom find? t = none ↔ ∀ u, u <:+ t → find? u = none := by
  induction t with
  | nil => simp [firstFrom]
  | cons c t ih =>
    rw [firstFrom, Option.or_eq_none_iff, ih]
    constructor
    · rintro ⟨here, later⟩ u hu
      rcases List.suffix_cons_iff.1 hu with rfl | hu
      · exact here
      · exact later u hu
    · intro h
      exact ⟨h _ (List.suffix_refl _), fun u hu => h u (hu.trans (List.suffix_cons _ _))⟩

theorem occurs_iff : occurs opening t ↔ opening <:+: t := by
  rw [← not_iff_not, occurs]
  simp only [Bool.not_eq_true, Option.isSome_eq_false_iff, Option.isNone_iff_eq_none,
    firstFrom_eq_none, dropStart?_eq_none]
  constructor
  · rintro h ⟨b, a, rfl⟩
    exact h (opening ++ a) ⟨b, by simp⟩ (List.prefix_append _ _)
  · intro h u hu hp
    exact h (hp.isInfix.trans hu.isInfix)

/-- If nothing is found behind the first opening tag, then nothing is behind a later one. -/
theorem firstFrom_opening {α : Type} {find? : Text → Option α}
    (hlater : ∀ r u, u <:+ r → find? r = none → find? u = none) :
    firstFrom (fun t => (dropStart? opening t).bind find?) t =
      (breakOn? opening t).bind fun parts => find? parts.2 := by
  induction t with
  | nil =>
    cases opening with
    | nil => rfl
    | cons o opening => rfl
  | cons c t ih =>
    rw [firstFrom]
    by_cases hp : opening <+: c :: t
    · obtain ⟨r, hr⟩ := hp
      rw [dropStart?_eq_some.2 hr.symm, breakOn?_eq_some.2 (firstAt_here hr.symm),
        Option.bind_some, Option.bind_some]
      cases hfind : find? r with
      | some a => rfl
      | none =>
        rw [Option.none_or, firstFrom_eq_none]
        intro u hu
        cases hd : dropStart? opening u with
        | none => rfl
        | some s =>
          obtain rfl := dropStart?_eq_some.1 hd
          -- both `r` and `s` end the text, and `s` is the shorter
          have hs : s <:+ c :: t := ((List.suffix_append _ _).trans hu).trans (List.suffix_cons _ _)
          have hsr : s <:+ r := by
            refine List.suffix_of_suffix_length_le hs (hr ▸ List.suffix_append _ _) ?_
            have h1 := hu.length_le
            have h2 := congrArg List.length hr
            simp only [List.length_append, List.length_cons] at h1 h2
            omega
          exact hlater r s hsr hfind
    · rw [dropStart?_eq_none.2 hp, Option.bind_none, Option.none_or, ih, breakOn?,
        if_neg (mt List.isPrefixOf_iff_prefix.1 hp)]
      cases breakOn? opening t <;> rfl

theorem shortest?_eq_none {closes : Text → Bool} :
    shortest? closes t = none ↔ ∀ u, u <:+ t → closes u = false := by
  induction t with
  | nil => simp [shortest?]
  | cons c t ih =>
    unfold shortest?
    split
    · next h =>
      refine ⟨fun hn => by simp at hn, fun hall => ?_⟩
      rw [hall _ (List.suffix_refl _)] at h
      cases h
    · next h =>
      rw [Option.map_eq_none_iff, ih]
      simp only [List.suffix_cons_iff, forall_eq_or_imp]
      exact ⟨fun hall => ⟨by simpa using h, hall⟩, fun hall => hall.2⟩

theorem shortest?_isPrefixOf : shortest? closing.isPrefixOf t = (breakOn? closing t).map (·.1) := by
  induction t with
  | nil => cases closing <;> rfl
  | cons c t ih =>
    unfold shortest? breakOn?
    split
    · rfl
    · rw [ih, Option.map_map, Option.map_map]
      rfl

theorem body?_eq : body? opening closing t =
    (breakOn? opening t).bind fun parts => (breakOn? closing parts.2).map (·.1) := by
  rw [body?, firstFrom_opening]
  · simp only [shortest?_isPrefixOf]
  · intro r u hu h
    rw [shortest?_isPrefixOf, Option.map_eq_none_iff, breakOn?_eq_none] at h ⊢
    exact fun hi => h (hi.trans hu.isInfix)

theorem mem_behindBlanks {tried : List Text} : u ∈ behindBlanks tried t ↔
    u ∈ tried ∨ ∃ w : Text, (∀ x ∈ w, x.isBlank) ∧ t = w ++ u := by
  induction t generalizing tried with
  | nil =>
    simp only [behindBlanks, List.mem_cons]
    constructor
    · rintro (rfl | h)
      · exact Or.inr ⟨[], by simp, rfl⟩
      · exact Or.inl h
    · rintro (h | ⟨w, -, h⟩)
      · exact Or.inr h
      · exact Or.inl (List.append_eq_nil_iff.1 h.symm).2
  | cons c t ih =>
    unfold behindBlanks
    split
    · next hc =>
      rw [ih, List.mem_cons]
      constructor
      · rintro ((rfl | h) | ⟨w, hw, rfl⟩)
        · exact Or.inr ⟨[], by simp, rfl⟩
        · exact Or.inl h
        · exact Or.inr ⟨c :: w, by simpa [hc] using hw, rfl⟩
      · rintro (h | ⟨w, hw, h⟩)
        · exact Or.inl (Or.inr h)
        · cases w with
          | nil => exact Or.inl (Or.inl h.symm)
          | cons d w => exact Or.inr ⟨w, fun x hx => hw x (by simp [hx]), (List.cons.inj h).2⟩
    · next hc =>
      rw [List.mem_cons]
      constructor
      · rintro (rfl | h)
        · exact Or.inr ⟨[], by simp, rfl⟩
        · exact Or.inl h
      · rintro (h | ⟨w, hw, h⟩)
        · exact Or.inr h
        · cases w with
          | nil => exact Or.inl h.symm
          | cons d w =>
            obtain rfl := (List.cons.inj h).1
            exact absurd (hw c List.mem_cons_self) hc

theorem head?_behindBlanks (tried : List Text) (t : Text) :
    (behindBlanks tried t).head? = some (trimStart t) := by
  induction t generalizing tried with
  | nil => rfl
  | cons c t ih =>
    unfold behindBlanks
    split
    · next hc => rw [ih, trimStart, trimStart, List.dropWhile_cons_of_pos hc]
    · next hc => rw [trimStart, List.dropWhile_cons_of_neg hc, List.head?_cons]

/-! Bodies between tags, the closing one with no white space at its start. -/

variable {c : CodePoint} {mark : Text} (hc : c.isBlank = false)

include hc

theorem closes_iff : (behindBlanks [] t).any (c :: mark).isPrefixOf ↔ c :: mark <+: trimStart t := by
  rw [List.any_eq_true]
  constructor
  · rintro ⟨u, hu, hp⟩
    obtain ⟨w, hw, rfl⟩ := (mem_behindBlanks.1 hu).resolve_left (by simp)
    obtain ⟨r, rfl⟩ := List.isPrefixOf_iff_prefix.1 hp
    rw [trimStart, List.dropWhile_append_of_pos hw, List.cons_append,
      List.dropWhile_cons_of_neg (by simp [hc])]
    exact List.prefix_append _ _
  · intro h
    refine ⟨trimStart t, ?_, List.isPrefixOf_iff_prefix.2 h⟩
    exact List.mem_of_mem_head? (head?_behindBlanks [] t)

theorem trimStart_append (b a : Text) :
    trimStart (b ++ (c :: mark ++ a)) = trimStart b ++ (c :: mark ++ a) := by
  induction b with
  | nil => rw [List.nil_append, trimStart, List.cons_append, List.dropWhile_cons_of_neg (by simp [hc])]; rfl
  | cons x b ih =>
    rw [List.cons_append]
    by_cases hx : x.isBlank
    · rw [trimStart, List.dropWhile_cons_of_pos hx, trimStart, List.dropWhile_cons_of_pos hx]
      exact ih
    · rw [trimStart, List.dropWhile_cons_of_neg hx, trimStart, List.dropWhile_cons_of_neg hx]
      rfl

/-- A place before the first closing tag is closed if there is only white space between them. -/
theorem closes_iff_of_firstAt (h : FirstAt (c :: mark) t before after) :
    (behindBlanks [] t).any (c :: mark).isPrefixOf ↔ trimStart before = [] := by
  rw [closes_iff hc, h.eq, trimStart_append hc]
  constructor
  · rintro ⟨r, hr⟩
    -- an occurrence at the trimmed place is not before the first one
    obtain ⟨w, hw⟩ : trimStart before <:+ before := List.dropWhile_suffix _
    have hlen := h.first w r (by rw [hr, ← List.append_assoc w, hw]; exact h.eq)
    have hsum := congrArg List.length hw
    rw [List.length_append] at hsum
    exact List.length_eq_zero_iff.1 (by omega)
  · intro hb
    rw [hb]
    exact List.prefix_append _ _

theorem FirstAt.trimStart (h : FirstAt (c :: mark) t before after) :
    FirstAt (c :: mark) (trimStart t) (trimStart before) after := by
  have heq : Text.trimStart t = Text.trimStart before ++ (c :: mark ++ after) := by
    rw [h.eq, trimStart_append hc]
  refine ⟨heq, fun b a hb => ?_⟩
  obtain ⟨w, hw⟩ : Text.trimStart t <:+ t := List.dropWhile_suffix _
  have hfirst := h.first (w ++ b) a (by rw [List.append_assoc, ← hb, hw])
  have h1 := congrArg List.length h.eq
  have h2 := congrArg List.length hw
  have h3 := congrArg List.length heq
  simp only [List.length_append] at h1 h2 h3 hfirst
  omega

theorem shortest?_closes (h : FirstAt (c :: mark) t before after) :
    shortest? (fun u => (behindBlanks [] u).any (c :: mark).isPrefixOf) t = some (trimEnd before) := by
  induction before generalizing t with
  | nil =>
    have hclosed := (closes_iff_of_firstAt hc h).2 rfl
    cases t with
    | nil => rw [shortest?, if_pos hclosed]; rfl
    | cons x t => rw [shortest?, if_pos hclosed]; rfl
  | cons x b ih =>
    obtain ⟨t, rfl⟩ : ∃ s, t = x :: s := ⟨_, h.eq⟩
    have hclosed := closes_iff_of_firstAt hc h
    rw [trimStart_eq_nil] at hclosed
    rw [shortest?, trimEnd_cons]
    by_cases hb : isBlank (x :: b)
    · rw [if_pos (hclosed.2 hb), if_pos hb]
    · have hx : ¬ c :: mark <+: x :: t := fun hp => by
        obtain ⟨r, hr⟩ := hp
        simpa using h.first [] r hr.symm
      rw [if_neg (mt hclosed.1 hb), if_neg hb, ih ((firstAt_cons hx).1 h)]
      rfl

/-- Behind an opening tag, the search ends at the first closing tag. -/
theorem findSome?_behindBlanks : ((behindBlanks [] t).findSome? (shortest? fun u =>
    (behindBlanks [] u).any (c :: mark).isPrefixOf)) =
      (breakOn? (c :: mark) t).map fun parts => trim parts.1 := by
  cases hbreak : breakOn? (c :: mark) t with
  | none =>
    rw [breakOn?_eq_none] at hbreak
    rw [Option.map_none, List.findSome?_eq_none_iff]
    intro u hu
    obtain ⟨w, -, rfl⟩ := (mem_behindBlanks.1 hu).resolve_left (by simp)
    rw [shortest?_eq_none]
    intro v hv
    rw [Bool.eq_false_iff, Ne, closes_iff hc]
    intro hp
    have hi : c :: mark <:+: trimStart v := hp.isInfix
    exact hbreak (hi.trans ((List.dropWhile_suffix _).trans (hv.trans (List.suffix_append w u))).isInfix)
  | some parts =>
    obtain ⟨before, after⟩ := parts
    have h := FirstAt.trimStart hc (breakOn?_eq_some.1 hbreak)
    have hhead := head?_behindBlanks [] t
    cases hplaces : behindBlanks [] t with
    | nil => simp [hplaces] at hhead
    | cons u places =>
      rw [hplaces, List.head?_cons, Option.some_inj] at hhead
      rw [List.findSome?_cons, hhead, shortest?_closes hc h]
      rfl

theorem trimmedBody?_eq : trimmedBody? opening (c :: mark) t =
    (breakOn? opening t).bind fun parts => (breakOn? (c :: mark) parts.2).map fun parts => trim parts.1 := by
  rw [trimmedBody?, firstFrom_opening]
  · simp only [findSome?_behindBlanks hc]
  · intro r u hu h
    rw [findSome?_behindBlanks hc, Option.map_eq_none_iff, breakOn?_eq_none] at h ⊢
    exact fun hi => h (hi.trans hu.isInfix)

end Redraft.Tag
