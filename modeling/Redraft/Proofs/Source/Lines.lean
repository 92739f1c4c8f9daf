import Redraft.Proofs.Source.Block

/-!
Lines by what stands around them. A line of a text stays one when other texts are joined to it, and
keeps all but its ends when the text is trimmed. A text whose first and last line are not blank loses
no line by that.
-/
namespace Redraft

namespace Source

variable {l s t : Text} {ls : List Text}

theorem following_lines (t : Text) : following (Text.lines t) = Text.newline :: t := by
  have htext := Text.join_split Text.newline t
  change Text.join [Text.newline] (Text.lines t) = t at htext
  cases hlines : Text.lines t with
  | nil => exact absurd hlines (Text.split_ne_nil _ _)
  | cons l ls => rw [following_cons, ← join_cons, ← hlines, htext]

theorem lines_append_newline (s t : Text) :
    Text.lines (s ++ Text.newline :: t) = Text.lines s ++ Text.lines t := Text.split_append s t

theorem lines_eq_singleton (h : Text.newline ∉ l) : Text.lines l = [l] := Text.split_eq_singleton h

theorem lines_blankLine (s t : Text) :
    Text.lines (s ++ Text.ofString "\n\n" ++ t) = Text.lines s ++ [] :: Text.lines t := by
  have hends : s ++ Text.ofString "\n\n" ++ t = s ++ Text.newline :: ([] ++ Text.newline :: t) := by
    simp [Text.ofString, Text.newline]
  rw [hends, lines_append_newline, lines_append_newline]
  rfl

/-- A line is a part of the text without line ends, between two line ends or ends of the text. -/
theorem mem_lines_iff : l ∈ Text.lines t ↔ Text.newline ∉ l ∧
    ∃ before after, t = before ++ l ++ after ∧ StartsLine before.getLast? ∧ EndsLine after := by
  constructor
  · intro h
    obtain ⟨above, below, hls⟩ := List.append_of_mem h
    have htext := following_lines t
    rw [hls, following_append, following_cons] at htext
    refine ⟨newline_notMem_lines t l h, ?_⟩
    cases above with
    | nil => exact ⟨[], _, (List.cons.inj htext).2.symm, by simp [StartsLine], endsLine_following below⟩
    | cons m ms =>
      rw [following_cons] at htext
      refine ⟨m ++ following ms ++ [Text.newline], _, ?_, ?_, endsLine_following below⟩
      · simpa using (List.cons.inj htext).2.symm
      · simp [StartsLine]
  · rintro ⟨hl, before, after, rfl, hstart, hend⟩
    have hline : l ∈ Text.lines (l ++ after) := by
      cases after with
      | nil =>
        rw [List.append_nil, lines_eq_singleton hl]
        exact List.mem_cons_self
      | cons x after =>
        obtain rfl : x = Text.newline := hend x rfl
        rw [lines_append_newline, lines_eq_singleton hl]
        exact List.mem_cons_self
    rcases List.eq_nil_or_concat before with rfl | ⟨before, x, rfl⟩
    · exact hline
    · obtain rfl : x = Text.newline := hstart x (by simp)
      rw [List.concat_eq_append, List.append_assoc, List.append_assoc, List.singleton_append,
        lines_append_newline]
      exact List.mem_append_right _ hline

theorem mem_lines_join {texts : List Text} (hl : l ∈ Text.lines t) (ht : t ∈ texts) :
    l ∈ Text.lines (Text.join "\n\n" texts) := by
  induction texts with
  | nil => cases ht
  | cons first rest ih =>
    cases rest with
    | nil =>
      rw [List.mem_singleton] at ht
      exact ht ▸ hl
    | cons second rest =>
      rw [Text.join_cons_cons, lines_blankLine, List.mem_append, List.mem_cons]
      rcases List.mem_cons.1 ht with rfl | ht
      · exact .inl hl
      · exact .inr (.inr (ih ht))

theorem StartsLine.trimStart {b : Text} (h : StartsLine b.getLast?) (hb : Text.isBlank b = false) :
    StartsLine (Text.trimStart b).getLast? := by
  rwa [Text.getLast?_trimStart hb]

theorem EndsLine.trimEnd {a : Text} (h : EndsLine a) (ha : Text.isBlank a = false) :
    EndsLine (Text.trimEnd a) := by
  cases a with
  | nil => cases ha
  | cons y a =>
    rw [Text.trimEnd_cons, ha, if_neg Bool.false_ne_true]
    exact fun x hx => h x hx

theorem newline_notMem_trimStart (h : Text.newline ∉ l) : Text.newline ∉ Text.trimStart l := fun hm =>
  h ((List.dropWhile_sublist _).subset hm)

theorem newline_notMem_trimEnd (h : Text.newline ∉ l) : Text.newline ∉ Text.trimEnd l := fun hm =>
  h ((List.rdropWhile_prefix _ _).subset hm)

theorem lines_trimStart (h : Text.lines t = l :: ls) (hl : Text.isBlank l = false) :
    Text.lines (Text.trimStart t) = Text.trimStart l :: ls := by
  have hline := newline_notMem_lines t
  have htext := following_lines t
  rw [h] at hline htext
  rw [following_cons] at htext
  rw [← (List.cons.inj htext).2, Text.trimStart_append, hl, if_neg Bool.false_ne_true]
  exact lines_append_following (newline_notMem_trimStart (hline l List.mem_cons_self)) fun m hm =>
    hline m (List.mem_cons_of_mem l hm)

theorem lines_trimEnd (h : Text.lines t = ls ++ [l]) (hl : Text.isBlank l = false) :
    Text.lines (Text.trimEnd t) = ls ++ [Text.trimEnd l] := by
  have hline := newline_notMem_lines t
  have htext := following_lines t
  rw [h] at hline htext
  have hend := newline_notMem_trimEnd (hline l (by simp))
  rw [following_append, following_cons] at htext
  cases ls with
  | nil =>
    have ht : t = l := by simpa [following] using htext.symm
    rw [ht, lines_eq_singleton hend, List.nil_append]
  | cons m ms =>
    have ht : t = m ++ following ms ++ [Text.newline] ++ l := by
      simpa [following_cons, following] using htext.symm
    have hrest : Text.trimEnd t = m ++ following (ms ++ [Text.trimEnd l]) := by
      rw [ht, Text.trimEnd_append, hl, if_neg Bool.false_ne_true, following_append]
      simp [following]
    rw [hrest, lines_append_following (hline m (by simp))]
    · rfl
    · intro k hk
      rcases List.mem_append.1 hk with hk | hk
      · exact hline k (by simp [hk])
      · rw [List.mem_singleton.1 hk]
        exact hend

theorem exists_mem_lines_trim (hl : l ∈ Text.lines t) (hfill : Text.isBlank l = false) :
    ∃ m ∈ Text.lines (Text.trim t), Text.trim m = Text.trim l := by
  obtain ⟨hline, before, after, rfl, hstart, hend⟩ := mem_lines_iff.1 hl
  -- the text from the line on, and what is left of the line and of the text before it
  obtain ⟨m, b, hm, hmfill, hb, hmtrim, hleft⟩ : ∃ m b : Text, Text.newline ∉ m ∧
      Text.isBlank m = false ∧ StartsLine b.getLast? ∧ Text.trim m = Text.trim l ∧
      Text.trimStart (before ++ l ++ after) = b ++ m ++ after := by
    cases hblank : Text.isBlank before with
    | true =>
      refine ⟨Text.trimStart l, [], newline_notMem_trimStart hline, by rw [Text.isBlank_trimStart, hfill],
        by simp [StartsLine], Text.trim_trimStart l, ?_⟩
      rw [List.append_assoc, Text.trimStart_append, hblank, if_pos rfl, Text.trimStart_append, hfill,
        if_neg Bool.false_ne_true, List.nil_append]
    | false =>
      refine ⟨l, Text.trimStart before, hline, hfill, hstart.trimStart hblank, rfl, ?_⟩
      rw [List.append_assoc, Text.trimStart_append, hblank, if_neg Bool.false_ne_true,
        List.append_assoc]
  rw [Text.trim, hleft, Text.trimEnd_append]
  cases hblank : Text.isBlank after with
  | true =>
    refine ⟨Text.trimEnd m, mem_lines_iff.2 ⟨newline_notMem_trimEnd hm, b, [], ?_, hb, by simp [EndsLine]⟩, ?_⟩
    · rw [if_pos rfl, Text.trimEnd_append, hmfill, if_neg Bool.false_ne_true, List.append_nil]
    · rw [Text.trim_trimEnd, hmtrim]
  | false =>
    exact ⟨m, mem_lines_iff.2 ⟨hm, b, _, by rw [if_neg Bool.false_ne_true], hb, hend.trimEnd hblank⟩,
      hmtrim⟩

/-- The same lines up to the white space at the two ends of each. -/
def SameLines (s t : Text) : Prop :=
  (Text.lines s).map Text.trim = (Text.lines t).map Text.trim

/-- The first and the last line have something on them. -/
structure Framed (t : Text) : Prop where
  first : ∀ l ∈ (Text.lines t).head?, Text.isBlank l = false
  last : ∀ l ∈ (Text.lines t).getLast?, Text.isBlank l = false

theorem framed_of_filled (h : ∀ l ∈ Text.lines t, Text.isBlank l = false) : Framed t :=
  ⟨fun l hl => h l (List.mem_of_mem_head? hl), fun l hl => h l (List.mem_of_mem_getLast? hl)⟩

theorem Framed.blankLine (hs : Framed s) (ht : Framed t) :
    Framed (s ++ Text.ofString "\n\n" ++ t) := by
  have hne (u : Text) : Text.lines u ≠ [] := Text.split_ne_nil _ u
  refine ⟨fun l hl => hs.first l ?_, fun l hl => ht.last l ?_⟩
  · rwa [lines_blankLine, List.head?_append_of_ne_nil _ (hne s)] at hl
  · rw [lines_blankLine, List.getLast?_append_of_ne_nil _ (List.cons_ne_nil _ _),
      List.getLast?_cons_of_ne_nil (hne t)] at hl
    exact hl

theorem Framed.isBlank (h : Framed t) : Text.isBlank t = false := by
  have htext := following_lines t
  cases hlines : Text.lines t with
  | nil => exact absurd hlines (Text.split_ne_nil _ _)
  | cons l ls =>
    have hl := h.first l (by rw [hlines]; rfl)
    rw [hlines, following_cons] at htext
    rw [← (List.cons.inj htext).2, Text.isBlank_append, hl, Bool.false_and]

theorem Framed.sameLines_trim (h : Framed t) : SameLines (Text.trim t) t := by
  obtain ⟨l, ls, hlines⟩ := List.exists_cons_of_ne_nil (Text.split_ne_nil Text.newline t)
  change Text.lines t = l :: ls at hlines
  have hl := h.first l (by rw [hlines]; rfl)
  have hstart := lines_trimStart hlines hl
  rw [SameLines, Text.trim, hlines]
  rcases List.eq_nil_or_concat ls with rfl | ⟨ms, m, rfl⟩
  · have hstart' : Text.lines (Text.trimStart t) = [] ++ [Text.trimStart l] := hstart
    rw [lines_trimEnd hstart' (by rw [Text.isBlank_trimStart, hl])]
    simp only [List.nil_append, List.map_cons, Text.trim_trimEnd, Text.trim_trimStart]
  · rw [List.concat_eq_append, ← List.cons_append] at hlines hstart
    have hm := h.last m (by rw [hlines, List.getLast?_concat]; rfl)
    rw [List.concat_eq_append, lines_trimEnd hstart hm]
    simp only [List.cons_append, List.map_append, List.map_cons, Text.trim_trimEnd,
      Text.trim_trimStart]

theorem framed_join {texts : List Text} (hne : texts ≠ []) (h : ∀ t ∈ texts, Framed t) :
    Framed (Text.join "\n\n" texts) := by
  induction texts with
  | nil => exact absurd rfl hne
  | cons first rest ih =>
    have hfirst := h first List.mem_cons_self
    cases rest with
    | nil => exact hfirst
    | cons second rest =>
      exact hfirst.blankLine (ih (by simp) fun t ht => h t (List.mem_cons_of_mem first ht))

end Source

end Redraft
