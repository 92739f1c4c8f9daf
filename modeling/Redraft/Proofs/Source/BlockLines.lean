import Redraft.Proofs.Source.Plain
import Redraft.Proofs.Source.Trimmed

/-!
Definition blocks as lists of lines. The blocks of a name are the ends of paragraphs that lead to a
line that binds it. With blank lines between them they make a text whose blocks they are, and so they
do when the white space at the two ends of that text is gone.
-/
namespace Redraft.Source

open Classical

variable {names : List Text} {text name hidden l : Text} {ls block : List Text}

noncomputable def blockIn? (names : List Text) : List Text → Option (List Text)
  | [] => none
  | l :: ls => if Leads names (l :: ls) then some (l :: ls) else blockIn? names ls

theorem blockIn?_of_leads (h : Leads names ls) : blockIn? names ls = some ls := by
  cases ls with
  | nil => exact h.elim
  | cons l ls => rw [blockIn?, if_pos h]

theorem blockIn?_eq_some (h : blockIn? names ls = some block) : Leads names block ∧ block <:+ ls := by
  induction ls with
  | nil => cases h
  | cons l ls ih =>
    rw [blockIn?] at h
    split at h
    · next hleads =>
      cases h
      exact ⟨hleads, List.suffix_rfl⟩
    · obtain ⟨hleads, hpart⟩ := ih h
      exact ⟨hleads, hpart.trans (List.suffix_cons l ls)⟩

def paragraphLines (t : Text) : List (List Text) := (paragraphs t).map (·.map (·.text))

theorem slice_definitionIn? {p : List Line} (hp : p <:+: placed 0 (Text.lines text)) :
    (definitionIn? names p).map (·.slice text) =
      (blockIn? names (p.map (·.text))).map (Text.join [Text.newline]) := by
  induction p with
  | nil => rfl
  | cons l p ih =>
    by_cases h : Leads names ((l :: p).map (·.text))
    · obtain ⟨span, hspan⟩ := exists_spanOf? (List.cons_ne_nil l p)
      have hlines : Text.split Text.newline (span.slice text) = (l :: p).map (·.text) :=
        lines_slice hp hspan
      rw [definitionIn?_of_leads h, hspan, blockIn?_of_leads h, ← hlines, Option.map_some,
        Option.map_some, Text.join_split]
    · rw [definitionIn?_cons h, ih ((List.suffix_cons l p).isInfix.trans hp)]
      rw [List.map_cons] at h ⊢
      rw [blockIn?, if_neg h]

theorem blocks?_eq (hname : Text.newline ∉ name) (hh : privateName? name = some hidden) (text : Text) :
    blocks? text name = some (((paragraphLines text).filterMap (blockIn? [name, hidden])).map
      (Text.join [Text.newline])) := by
  rw [blocks?, spans?, hh, Option.map_some, Option.map_some,
    scan_eq (newline_notMem_spellings hname hh), List.map_filterMap, paragraphLines,
    List.filterMap_map, List.map_filterMap]
  congr 1
  exact List.filterMap_congr fun p hp => slice_definitionIn? (infix_of_mem_runs hp).1

/-- The lines of a definition block. -/
structure IsBlock (names : List Text) (block : List Text) : Prop where
  leads : Leads names block
  filled : ∀ l ∈ block, Text.isBlank l = false
  inline : ∀ l ∈ block, Text.newline ∉ l

theorem IsBlock.ne_nil (h : IsBlock names block) : block ≠ [] := by
  rintro rfl
  exact h.leads

theorem isBlock_of_mem {p : List Text} (hp : p ∈ paragraphLines text) (h : blockIn? names p = some block) :
    IsBlock names block := by
  obtain ⟨hleads, hpart⟩ := blockIn?_eq_some h
  obtain ⟨q, hq, rfl⟩ := List.mem_map.1 hp
  obtain ⟨hinside, -, hfill⟩ := infix_of_mem_runs hq
  refine ⟨hleads, fun l hl => ?_, fun l hl => ?_⟩
  · obtain ⟨m, hm, rfl⟩ := List.mem_map.1 (hpart.subset hl)
    exact hfill m hm
  · have hmem := (hinside.map (·.text)).subset (hpart.subset hl)
    rw [map_text_placed] at hmem
    exact newline_notMem_lines text l hmem

/-! Texts of blocks. -/

def textOf (blocks : List (List Text)) : Text :=
  Text.join "\n\n" (blocks.map (Text.join [Text.newline]))

variable {blocks : List (List Text)}

theorem textOf_cons_cons (block next : List Text) (blocks : List (List Text)) :
    textOf (block :: next :: blocks) =
      Text.join [Text.newline] block ++ Text.ofString "\n\n" ++ textOf (next :: blocks) := rfl

theorem IsBlock.lines (h : IsBlock names block) : Text.lines (Text.join [Text.newline] block) = block :=
  Text.split_join h.ne_nil h.inline

theorem IsBlock.framed (h : IsBlock names block) : Framed (Text.join [Text.newline] block) :=
  framed_of_filled (by rw [h.lines]; exact h.filled)

theorem isBlank_textOf (hne : blocks ≠ []) (h : ∀ b ∈ blocks, IsBlock names b) :
    Text.isBlank (textOf blocks) = false := by
  refine (framed_join (by simpa using hne) fun t ht => ?_).isBlank
  obtain ⟨b, hb, rfl⟩ := List.mem_map.1 ht
  exact (h b hb).framed

theorem paragraphLines_textOf (h : ∀ b ∈ blocks, IsBlock names b) :
    paragraphLines (textOf blocks) = blocks := by
  -- the places of the lines do not matter, so that they may start anywhere
  have hplaced (i : Nat) : (runs (placed i (Text.lines (textOf blocks)))).map (·.map (·.text)) = blocks := by
    induction blocks generalizing i with
    | nil => rfl
    | cons block blocks ih =>
      have hblock := h block List.mem_cons_self
      cases blocks with
      | nil =>
        have hlines : Text.lines (textOf [block]) = block ++ [] := hblock.lines.trans block.append_nil.symm
        rw [hlines, runs_placed ⟨hblock.filled, by simp⟩ hblock.ne_nil, List.map_cons, map_text_placed]
        rfl
      | cons next blocks =>
        rw [textOf_cons_cons, lines_blankLine, hblock.lines,
          runs_placed ⟨hblock.filled, by simp [Text.isBlank]⟩ hblock.ne_nil, List.map_cons,
          map_text_placed, placed, runs_cons_blank rfl, ih fun b hb => h b (List.mem_cons_of_mem _ hb)]
  exact hplaced 0

/-- Blocks are found again in their text. -/
theorem blocks?_textOf (hname : Text.newline ∉ name) (hh : privateName? name = some hidden)
    (h : ∀ b ∈ blocks, IsBlock [name, hidden] b) :
    blocks? (textOf blocks) name = some (blocks.map (Text.join [Text.newline])) := by
  have hall : blocks.filterMap (blockIn? [name, hidden]) = blocks := by
    rw [List.filterMap_congr fun b hb => blockIn?_of_leads (h b hb).leads, List.filterMap_some]
  rw [blocks?_eq hname hh, paragraphLines_textOf h, hall]

theorem trimStart_of_isSignature (h : isSignature l) : Text.trimStart l = l := by
  cases l with
  | nil => rfl
  | cons c rest =>
    obtain rfl : c = .scalar '>' := by simpa [isSignature] using h
    rfl

theorem IsBlock.trimStart (hn : Solid names) (h : IsBlock names block) : ∃ trimmed,
    IsBlock names trimmed ∧
      Text.join [Text.newline] trimmed = Text.trimStart (Text.join [Text.newline] block) := by
  cases block with
  | nil => exact absurd rfl h.ne_nil
  | cons l ls =>
    have hl := h.filled l List.mem_cons_self
    refine ⟨Text.trimStart l :: ls, ⟨?_, ?_, ?_⟩, ?_⟩
    · rcases h.leads with hbinds | ⟨hsign, hrest⟩
      · exact .inl (hbinds.trimStart hn)
      · exact .inr ⟨by rwa [trimStart_of_isSignature hsign], hrest⟩
    · exact List.forall_mem_cons.2 ⟨by rw [Text.isBlank_trimStart, hl], fun m hm =>
        h.filled m (List.mem_cons_of_mem l hm)⟩
    · exact List.forall_mem_cons.2 ⟨newline_notMem_trimStart (h.inline l List.mem_cons_self),
        fun m hm => h.inline m (List.mem_cons_of_mem l hm)⟩
    · rw [join_cons, join_cons, Text.trimStart_append, hl, if_neg Bool.false_ne_true]

theorem Leads.trimEnd (hn : Solid names) (h : Leads names (ls ++ [l])) :
    Leads names (ls ++ [Text.trimEnd l]) := by
  induction ls with
  | nil =>
    rcases h with h | ⟨-, h⟩
    · exact .inl (h.trimEnd hn)
    · exact h.elim
  | cons m ls ih => exact h.imp_right fun ⟨hsign, hrest⟩ => ⟨hsign, ih hrest⟩

theorem IsBlock.trimEnd (hn : Solid names) (h : IsBlock names block) : ∃ trimmed,
    IsBlock names trimmed ∧
      Text.join [Text.newline] trimmed = Text.trimEnd (Text.join [Text.newline] block) := by
  rcases List.eq_nil_or_concat block with rfl | ⟨ls, l, rfl⟩
  · exact absurd rfl h.ne_nil
  · rw [List.concat_eq_append] at h ⊢
    have hl := h.filled l (by simp)
    have hlines := lines_trimEnd h.lines hl
    refine ⟨ls ++ [Text.trimEnd l], ⟨h.leads.trimEnd hn, ?_, ?_⟩, ?_⟩
    · intro m hm
      rcases List.mem_append.1 hm with hm | hm
      · exact h.filled m (List.mem_append_left _ hm)
      · rw [List.mem_singleton.1 hm, Text.isBlank_trimEnd, hl]
    · rw [← hlines]
      exact newline_notMem_lines _
    · rw [← hlines]
      exact Text.join_split _ _

theorem exists_textOf_trimStart (hn : Solid names) (h : ∀ b ∈ blocks, IsBlock names b) :
    ∃ trimmed, (∀ b ∈ trimmed, IsBlock names b) ∧ textOf trimmed = Text.trimStart (textOf blocks) := by
  cases blocks with
  | nil => exact ⟨[], h, rfl⟩
  | cons block rest =>
    obtain ⟨hblock, hrest⟩ := List.forall_mem_cons.1 h
    obtain ⟨first, hfirst, htext⟩ := hblock.trimStart hn
    refine ⟨first :: rest, List.forall_mem_cons.2 ⟨hfirst, hrest⟩, ?_⟩
    cases rest with
    | nil => exact htext
    | cons next rest =>
      rw [textOf_cons_cons, textOf_cons_cons, htext, List.append_assoc, List.append_assoc,
        Text.trimStart_append _ (Text.ofString "\n\n" ++ _), hblock.framed.isBlank,
        if_neg Bool.false_ne_true]

theorem exists_textOf_trimEnd (hn : Solid names) (h : ∀ b ∈ blocks, IsBlock names b) :
    ∃ trimmed, (∀ b ∈ trimmed, IsBlock names b) ∧ textOf trimmed = Text.trimEnd (textOf blocks) := by
  induction blocks with
  | nil => exact ⟨[], h, rfl⟩
  | cons block rest ih =>
    obtain ⟨hblock, hrest⟩ := List.forall_mem_cons.1 h
    cases rest with
    | nil =>
      obtain ⟨last, hlast, htext⟩ := hblock.trimEnd hn
      exact ⟨[last], by simpa using hlast, htext⟩
    | cons next rest =>
      obtain ⟨trimmed, htrimmed, htext⟩ := ih hrest
      have hfull := isBlank_textOf (List.cons_ne_nil next rest) hrest
      refine ⟨block :: trimmed, List.forall_mem_cons.2 ⟨hblock, htrimmed⟩, ?_⟩
      cases trimmed with
      | nil =>
        rw [← Text.isBlank_trimEnd, ← htext] at hfull
        cases hfull
      | cons b trimmed =>
        rw [textOf_cons_cons, textOf_cons_cons, htext, Text.trimEnd_append _ (textOf _), hfull,
          if_neg Bool.false_ne_true]

end Redraft.Source
