import Redraft.Proofs.Source.BlockLines

/-!
Extracted texts. What is extracted for two lists of names together is what is extracted for each of
them, line by line; and what is extracted for a name is its own extraction.
-/
namespace Redraft.Source

variable {names : List Text} {text name hidden : Text}

theorem exists_privateName? (h : Text.isBlank name = false) : ∃ hidden, privateName? name = some hidden := by
  cases name with
  | nil => cases h
  | cons c rest => exact ⟨_, rfl⟩

/-- Every name that is not blank has its blocks, each with something on its first and last line. -/
theorem exists_blocks (hfull : Text.isBlank name = false) (hline : Text.newline ∉ name) (text : Text) :
    ∃ found, blocks? text name = some found ∧ ∀ b ∈ found, Framed b := by
  obtain ⟨hidden, hh⟩ := exists_privateName? hfull
  refine ⟨_, blocks?_eq hline hh text, fun t ht => ?_⟩
  obtain ⟨block, hblock, rfl⟩ := List.mem_map.1 ht
  obtain ⟨p, hp, hfound⟩ := List.mem_filterMap.1 hblock
  exact (isBlock_of_mem hp hfound).framed

theorem exists_blocks_of_names (h : ∀ name ∈ names, Text.isBlank name = false ∧ Text.newline ∉ name)
    (text : Text) : ∃ found, names.mapM (blocks? text) = some found ∧ ∀ b ∈ found.flatten, Framed b := by
  induction names with
  | nil => exact ⟨[], rfl, by simp⟩
  | cons name rest ih =>
    obtain ⟨⟨hfull, hline⟩, hrest⟩ := List.forall_mem_cons.1 h
    obtain ⟨first, hfirst, hframed⟩ := exists_blocks hfull hline text
    obtain ⟨found, hfound, hall⟩ := ih hrest
    refine ⟨first :: found, by rw [List.mapM_cons, hfirst, hfound]; rfl, fun b hb => ?_⟩
    rw [List.flatten_cons, List.mem_append] at hb
    exact hb.elim (hframed b) (hall b)

theorem trim_join_eq_nil {texts : List Text} (h : ∀ t ∈ texts, Framed t) :
    Text.trim (Text.join "\n\n" texts) = [] ↔ texts = [] := by
  refine ⟨fun hnil => ?_, fun hnil => by rw [hnil]; rfl⟩
  by_contra hne
  have hfull := (framed_join hne h).isBlank
  rw [Text.trim_eq_nil.1 hnil] at hfull
  cases hfull

theorem sameLines_trim_blankLine {s t : Text} (hs : Framed s) (ht : Framed t) :
    SameLines (Text.trim (s ++ Text.ofString "\n\n" ++ t))
      (Text.trim s ++ Text.ofString "\n\n" ++ Text.trim t) := by
  have hwhole := (hs.blankLine ht).sameLines_trim
  have hfirst := hs.sameLines_trim
  have hsecond := ht.sameLines_trim
  simp only [SameLines, lines_blankLine, List.map_append, List.map_cons] at hwhole hfirst hsecond ⊢
  rw [hwhole, hfirst, hsecond]

/-- A request for definitions can be split in two: each part gives the lines that it gives in the
whole, up to white space at their ends, and a part without definitions gives nothing. -/
theorem definitions?_append (text : Text) (xs ys : List Text)
    (h : ∀ name ∈ xs ++ ys, Text.isBlank name = false ∧ Text.newline ∉ name) :
    ∃ first second whole, definitions? text xs = some first ∧ definitions? text ys = some second ∧
      definitions? text (xs ++ ys) = some whole ∧
      (first ≠ [] → second ≠ [] → SameLines whole (first ++ Text.ofString "\n\n" ++ second)) ∧
      (first = [] → whole = second) ∧ (second = [] → whole = first) := by
  obtain ⟨before, hbefore, hfirst⟩ := exists_blocks_of_names
    (fun name hn => h name (List.mem_append_left ys hn)) text
  obtain ⟨after, hafter, hsecond⟩ := exists_blocks_of_names
    (fun name hn => h name (List.mem_append_right xs hn)) text
  refine ⟨Text.trim (Text.join "\n\n" before.flatten), Text.trim (Text.join "\n\n" after.flatten),
    Text.trim (Text.join "\n\n" (before.flatten ++ after.flatten)), ?_, ?_, ?_, ?_, ?_, ?_⟩
  · rw [definitions?, hbefore, Option.map_some]
  · rw [definitions?, hafter, Option.map_some]
  · rw [definitions?, List.mapM_append, hbefore, hafter, ← List.flatten_append]
    rfl
  · intro hne hne'
    have hbefore := mt (trim_join_eq_nil hfirst).2 hne
    have hafter := mt (trim_join_eq_nil hsecond).2 hne'
    rw [Text.join_append hbefore hafter, ← List.append_assoc]
    exact sameLines_trim_blankLine (framed_join hbefore hfirst) (framed_join hafter hsecond)
  · intro hnil
    rw [(trim_join_eq_nil hfirst).1 hnil, List.nil_append]
  · intro hnil
    rw [(trim_join_eq_nil hsecond).1 hnil, List.append_nil]

/-- The whole keeps the white space where the parts meet. -/
theorem definitions?_append_indented :
    (∀ name ∈ [Text.ofString "f"] ++ [Text.ofString "g"],
      Text.isBlank name = false ∧ Text.newline ∉ name) ∧
    definitions? "  f =?= 1 \n\n\tg 2 !! \n" ["f"] = some "f =?= 1" ∧
    definitions? "  f =?= 1 \n\n\tg 2 !! \n" ["g"] = some "g 2 !!" ∧
    definitions? "  f =?= 1 \n\n\tg 2 !! \n" ["f", "g"] = some "f =?= 1 \n\n\tg 2 !!" ∧
    SameLines "f =?= 1 \n\n\tg 2 !!" (Text.ofString "f =?= 1" ++ Text.ofString "\n\n" ++ "g 2 !!") := by
  have hnames : ∀ name ∈ [Text.ofString "f"] ++ [Text.ofString "g"],
      Text.isBlank name = false ∧ Text.newline ∉ name := by decide
  have hf : definitions? "  f =?= 1 \n\n\tg 2 !! \n" ["f"] = some "f =?= 1" := by decide +kernel
  have hg : definitions? "  f =?= 1 \n\n\tg 2 !! \n" ["g"] = some "g 2 !!" := by decide +kernel
  have hfg : definitions? "  f =?= 1 \n\n\tg 2 !! \n" ["f", "g"] =
      some "f =?= 1 \n\n\tg 2 !!" := by decide +kernel
  obtain ⟨first, second, whole, hfirst, hsecond, hwhole, hsame, -, -⟩ :=
    definitions?_append "  f =?= 1 \n\n\tg 2 !! \n" ["f"] ["g"] hnames
  obtain rfl := Option.some.inj (hf.symm.trans hfirst)
  obtain rfl := Option.some.inj (hg.symm.trans hsecond)
  obtain rfl := Option.some.inj (hfg.symm.trans hwhole)
  exact ⟨hnames, hf, hg, hfg, hsame (by decide) (by decide)⟩

/-! Extraction of what was extracted. -/

theorem solid_spellings (hne : name ≠ []) (hblank : ∀ c ∈ name, c.isBlank = false)
    (hh : privateName? name = some hidden) : Solid [name, hidden] := by
  cases name with
  | nil => exact absurd rfl hne
  | cons c rest =>
    obtain rfl := Option.some.inj hh
    obtain ⟨hc, hrest⟩ := List.forall_mem_cons.1 hblank
    intro n hn
    rcases List.mem_cons.1 hn with rfl | hn
    · exact ⟨hne, hblank⟩
    · rw [List.mem_singleton.1 hn]
      refine ⟨List.cons_ne_nil _ _, List.forall_mem_cons.2 ⟨rfl, fun d hd => ?_⟩⟩
      exact (List.mem_append.1 hd).elim (CodePoint.isBlank_of_mem_upper hc) (hrest d)

/-- What is extracted for a name is its own extraction: every block in it is one still, and the white
space that is gone from the two ends of the text is no part of what makes a block. -/
theorem definitions?_idempotent (text name : Text) (hne : name ≠ [])
    (hblank : ∀ c ∈ name, c.isBlank = false) :
    ∃ found, definitions? text [name] = some found ∧ definitions? found [name] = some found := by
  have hline : Text.newline ∉ name := fun h => by cases hblank _ h
  obtain ⟨c, rest, rfl⟩ := List.exists_cons_of_ne_nil hne
  have hfull : Text.isBlank (c :: rest) = false := by
    rw [Text.isBlank_cons, hblank c List.mem_cons_self, Bool.false_and]
  obtain ⟨hidden, hh⟩ := exists_privateName? hfull
  have hsolid := solid_spellings hne hblank hh
  let blocks := (paragraphLines text).filterMap (blockIn? [c :: rest, hidden])
  have hblocks : ∀ b ∈ blocks, IsBlock [c :: rest, hidden] b := fun b hb => by
    obtain ⟨p, hp, hfound⟩ := List.mem_filterMap.1 hb
    exact isBlock_of_mem hp hfound
  obtain ⟨started, hstarted, hstart⟩ := exists_textOf_trimStart hsolid hblocks
  obtain ⟨trimmed, htrimmed, hend⟩ := exists_textOf_trimEnd hsolid hstarted
  have htext : textOf trimmed = Text.trim (textOf blocks) := by rw [hend, hstart, Text.trim]
  refine ⟨Text.trim (textOf blocks), ?_, ?_⟩
  · rw [definitions?_singleton, blocks?_eq hline hh]
    rfl
  · rw [definitions?_singleton, ← htext, blocks?_textOf hline hh htrimmed, Option.map_some]
    change some (Text.trim (textOf trimmed)) = _
    rw [htext, Text.trim_trim]

theorem definitions?_idempotent_signed : Text.ofString "f" ≠ [] ∧
    (∀ c ∈ Text.ofString "f", c.isBlank = false) ∧
    definitions? "\n  f =?= 1\n\n= g f\n\n> Nat\n= (f n)\n  n \n" ["f"] =
      some "f =?= 1\n\n> Nat\n= (f n)\n  n" ∧
    definitions? "f =?= 1\n\n> Nat\n= (f n)\n  n" ["f"] =
      some "f =?= 1\n\n> Nat\n= (f n)\n  n" := by
  have hblank : ∀ c ∈ Text.ofString "f", c.isBlank = false := by decide
  have hf : definitions? "\n  f =?= 1\n\n= g f\n\n> Nat\n= (f n)\n  n \n" ["f"] =
      some "f =?= 1\n\n> Nat\n= (f n)\n  n" := by decide +kernel
  obtain ⟨found, hfound, hagain⟩ := definitions?_idempotent
    "\n  f =?= 1\n\n= g f\n\n> Nat\n= (f n)\n  n \n" "f" (by decide) hblank
  obtain rfl := Option.some.inj (hf.symm.trans hfound)
  exact ⟨by decide, hblank, hf, hagain⟩

end Redraft.Source
