import Redraft.Proofs.Source.Block
import Redraft.Proofs.Text.CodePoint
import Mathlib.Data.List.DropRight

/-! Definitions by paragraphs. A paragraph is a longest run of lines that are not blank. The search
for the definitions of a name finds one in each paragraph with a line that binds the name: from the
signature lines directly before the first such line to the end of the paragraph. -/
namespace Redraft.Source

open Classical

/-- A line of a text and the place where it starts. -/
structure Line where
  start : Nat
  text : Text

def Line.stop (l : Line) : Nat := l.start + l.text.length

def placed : Nat → List Text → List Line
  | _, [] => []
  | n, l :: ls => ⟨n, l⟩ :: placed (n + l.length + 1) ls

/-- The longest runs of lines that are not blank. -/
def runs (ls : List Line) : List (List Line) :=
  (ls.splitOnP fun l => Text.isBlank l.text).filter fun p => !p.isEmpty

def paragraphs (t : Text) : List (List Line) := runs (placed 0 (Text.lines t))

def spanOf? (ls : List Line) : Option Span := do
  let first ← ls.head?
  let last ← ls.getLast?
  return ⟨first.start, last.stop⟩

/-- The definition in a paragraph: the signature lines directly before the first line that binds the
name, that line, and all after it. -/
noncomputable def definitionIn? (names : List Text) (p : List Line) : Option Span :=
  let binds (l : Line) : Bool := decide (Binds names l.text)
  let tail := p.dropWhile (!binds ·)
  if tail.isEmpty then none
  else spanOf? ((p.takeWhile (!binds ·)).rtakeWhile (isSignature ·.text) ++ tail)

variable {names : List Text} {b : Option CodePoint} {l : Text} {ls : List Text}

/-! The search over a text, line by line. -/

theorem scan_skip (names : List Text) (i : Nat) (b : Option CodePoint) (w t : Text) :
    scan names i w.length b (w ++ t) = scan names (i + w.length) 0 (w.getLast?.or b) t := by
  induction w generalizing i b with
  | nil => rfl
  | cons x w ih =>
    rw [List.length_cons, List.cons_append, scan, ih, List.getLast?_cons]
    congr 1
    · omega
    · cases w.getLast? <;> rfl

/-- The search from the start of the first of some lines. -/
def scanLines (names : List Text) (i : Nat) : List Text → List Span
  | [] => []
  | l :: ls => scan names i 0 (some Text.newline) (l ++ following ls)

theorem scan_inside {x : CodePoint} (hx : x ≠ Text.newline) {w : Text} (hw : Text.newline ∉ w)
    (i : Nat) :
    scan names i 0 (some x) (w ++ following ls) = scanLines names (i + w.length + 1) ls := by
  have inside : ∀ {y : CodePoint}, y ≠ Text.newline → ∀ t, (⟨some y, t⟩ : Cursor).atLineStart = false := by
    intro y hy t
    simp [Cursor.atLineStart, hy]
  induction w generalizing x i with
  | nil =>
    cases ls with
    | nil => rfl
    | cons m ms => simp [following_cons, scan, scanLines, inside hx]
  | cons y w ih =>
    obtain ⟨hy, hw⟩ : y ≠ Text.newline ∧ Text.newline ∉ w := by simpa [eq_comm] using hw
    rw [List.cons_append, scan]
    simp only [inside hx, Bool.false_eq_true, if_false]
    rw [ih hy hw, List.length_cons]
    congr 1
    omega

theorem atLineStart_of_startsLine (hb : StartsLine b) (t : Text) : (⟨b, t⟩ : Cursor).atLineStart := by
  cases b with
  | none => rfl
  | some x => rw [hb x rfl]; rfl

theorem scan_line (hn : ∀ name ∈ names, Text.newline ∉ name) (hb : StartsLine b)
    (hls : ∀ m ∈ l :: ls, Text.newline ∉ m) (h : ¬ Leads names (l :: ls)) (i : Nat) :
    scan names i 0 b (l ++ following ls) = scanLines names (i + l.length + 1) ls := by
  have hblock := block?_eq_none hn hb hls h
  have hstart := atLineStart_of_startsLine hb (l ++ following ls)
  cases l with
  | nil =>
    cases ls with
    | nil => rfl
    | cons m ms =>
      rw [List.nil_append, following_cons] at hblock hstart ⊢
      simp [scan, hblock, scanLines]
  | cons x l =>
    have hl := hls (x :: l) List.mem_cons_self
    obtain ⟨hx, hl⟩ : x ≠ Text.newline ∧ Text.newline ∉ l := by simpa [eq_comm] using hl
    rw [List.cons_append] at hblock hstart ⊢
    simp only [scan, hblock, ite_self]
    rw [scan_inside hx hl, List.length_cons]
    congr 1
    omega

theorem getLast?_lines (l : Text) (block : List Text) (hls : ∀ m ∈ l :: block, Text.newline ∉ m)
    (hfill : ∀ m ∈ l :: block, Text.isBlank m = false) :
    ∃ x, x ≠ Text.newline ∧ (l ++ following block).getLast? = some x := by
  induction block generalizing l with
  | nil =>
    cases hx : l.getLast? with
    | none =>
      have := hfill l List.mem_cons_self
      rw [List.getLast?_eq_none_iff.1 hx] at this
      cases this
    | some x =>
      refine ⟨x, fun he => hls l List.mem_cons_self ?_, by simp [following, hx]⟩
      exact he ▸ List.mem_of_mem_getLast? hx
  | cons m ms ih =>
    obtain ⟨x, hx, hlast⟩ := ih m (fun k hk => hls k (List.mem_cons_of_mem _ hk))
      (fun k hk => hfill k (List.mem_cons_of_mem _ hk))
    refine ⟨x, hx, ?_⟩
    rw [following_cons, List.getLast?_append, List.getLast?_cons, hlast]
    rfl

/-- A block is found from the first line that leads to a binding, and the search goes on behind the
paragraph. -/
theorem scan_block (hn : ∀ name ∈ names, Text.newline ∉ name) (hb : StartsLine b)
    {block rest : List Text} (hls : ∀ m ∈ l :: (block ++ rest), Text.newline ∉ m)
    (hp : Paragraph (l :: block) rest) (h : Leads names (l :: (block ++ rest))) (i : Nat) :
    scan names i 0 b (l ++ following (block ++ rest)) =
      ⟨i, i + (l ++ following block).length⟩ ::
        scanLines names (i + (l ++ following block).length + 1) rest := by
  have hblock := block?_eq_some hn hb hls hp h
  have hstart := atLineStart_of_startsLine hb (l ++ following (block ++ rest))
  obtain ⟨y, hy, hlast⟩ := getLast?_lines l block
    (fun m hm => hls m (List.mem_append_left rest hm)) hp.filled
  rw [following_append, ← List.append_assoc] at hblock hstart ⊢
  cases ht : l ++ following block with
  | nil => simp [ht] at hlast
  | cons x t =>
    rw [ht, List.getLast?_cons] at hlast
    rw [ht, List.cons_append] at hblock hstart
    rw [List.cons_append, scan]
    simp only [hstart, if_true, hblock, List.length_cons, Nat.add_sub_cancel]
    have hbefore : t.getLast?.or (some x) = some y := by
      rw [← hlast]
      cases t.getLast? <;> rfl
    rw [scan_skip, hbefore]
    have hrest : scan names (i + 1 + t.length) 0 (some y) (following rest) =
        scanLines names (i + 1 + t.length + 1) rest := scan_inside hy (w := []) (by simp) _
    rw [hrest]
    congr 2
    omega

/-! The search, paragraph by paragraph. -/

theorem leads_append {block rest : List Text} (h : Paragraph block rest) :
    Leads names (block ++ rest) ↔ Leads names block := by
  obtain ⟨-, hstops⟩ := h
  induction block with
  | nil =>
    cases rest with
    | nil => rfl
    | cons m ms =>
      refine ⟨fun h => ?_, fun h => h.elim⟩
      have := h.isBlank
      rw [hstops m rfl] at this
      cases this
  | cons l block ih => simp only [List.cons_append, Leads, ih]

/-- Lines lead to a binding if all before the first line that binds are signature lines. -/
theorem leads_iff (p : List Line) : Leads names (p.map (·.text)) ↔
    (∀ l ∈ p.takeWhile (fun l => !decide (Binds names l.text)), isSignature l.text) ∧
      p.dropWhile (fun l => !decide (Binds names l.text)) ≠ [] := by
  induction p with
  | nil => simp [Leads]
  | cons l p ih =>
    by_cases h : Binds names l.text
    · simp [Leads, h]
    · simp [Leads, h, ih, and_assoc]

theorem rtakeWhile_cons {α : Type} {p : α → Bool} {x : α} {xs : List α}
    (h : ¬ ∀ y ∈ x :: xs, p y) : (x :: xs).rtakeWhile p = xs.rtakeWhile p := by
  unfold List.rtakeWhile
  rw [List.reverse_cons, List.takeWhile_append]
  split
  · next hlen =>
    have hall : ∀ y ∈ xs, p y := by
      intro y hy
      have := List.takeWhile_eq_self_iff.1 ((List.takeWhile_prefix p).eq_of_length hlen)
      exact this y (List.mem_reverse.2 hy)
    have hx : p x = false := by
      by_contra hx
      exact h fun y hy => (List.mem_cons.1 hy).elim (fun he => by simpa [he] using hx) (hall y)
    rw [(List.takeWhile_prefix p).eq_of_length hlen]
    simp [hx]
  · rfl

theorem definitionIn?_of_leads {p : List Line} (h : Leads names (p.map (·.text))) :
    definitionIn? names p = spanOf? p := by
  obtain ⟨hsign, htail⟩ := (leads_iff p).1 h
  simp only [definitionIn?, List.isEmpty_iff, htail, if_false]
  rw [List.rtakeWhile_eq_self_iff.2 hsign, List.takeWhile_append_dropWhile]

theorem definitionIn?_cons {l : Line} {p : List Line}
    (h : ¬ Leads names ((l :: p).map (·.text))) : definitionIn? names (l :: p) = definitionIn? names p := by
  have hl : ¬ Binds names l.text := fun hl => h (Or.inl hl)
  rw [leads_iff] at h
  simp only [definitionIn?, List.isEmpty_iff]
  rw [List.dropWhile_cons_of_pos (by simp [hl]), List.takeWhile_cons_of_pos (by simp [hl])] at h ⊢
  split
  · rfl
  · next htail => rw [rtakeWhile_cons fun hall => h ⟨hall, htail⟩]

theorem map_text_placed (i : Nat) (ls : List Text) : (placed i ls).map (·.text) = ls := by
  induction ls generalizing i with
  | nil => rfl
  | cons l ls ih => simp [placed, ih]

theorem placed_append (i : Nat) (ls ms : List Text) :
    placed i (ls ++ ms) = placed i ls ++ placed (i + (following ls).length) ms := by
  induction ls generalizing i with
  | nil => rfl
  | cons l ls ih =>
    simp only [List.cons_append, placed, ih, following_cons, List.length_cons, List.length_append]
    congr 3
    omega

theorem spanOf?_placed (i : Nat) (l : Text) (block : List Text) :
    spanOf? (placed i (l :: block)) = some ⟨i, i + (l ++ following block).length⟩ := by
  have hlast : ∃ m, (placed i (l :: block)).getLast? = some m ∧
      m.stop = i + (l ++ following block).length := by
    induction block generalizing i l with
    | nil => exact ⟨⟨i, l⟩, rfl, by simp [Line.stop, following]⟩
    | cons k ks ih =>
      obtain ⟨m, hm, hstop⟩ := ih (i + l.length + 1) k
      refine ⟨m, ?_, ?_⟩
      · rw [placed, List.getLast?_cons, hm]
        rfl
      · rw [hstop, following_cons]
        simp only [List.length_append, List.length_cons]
        omega
  obtain ⟨m, hm, hstop⟩ := hlast
  have hhead : (placed i (l :: block)).head? = some ⟨i, l⟩ := rfl
  rw [spanOf?, hhead, hm, ← hstop]
  rfl

theorem runs_cons_blank {l : Line} {ls : List Line} (h : Text.isBlank l.text) :
    runs (l :: ls) = runs ls := by
  simp [runs, List.splitOnP_cons_eq_if_modifyHead, h]

theorem runs_append {p q : List Line} (hp : p ≠ []) (hfill : ∀ l ∈ p, Text.isBlank l.text = false)
    (hq : ∀ l ∈ q.head?, Text.isBlank l.text) : runs (p ++ q) = p :: runs q := by
  have hne : p.isEmpty = false := by simpa using hp
  cases q with
  | nil => simp [runs, List.splitOnP_eq_singleton hfill, hne]
  | cons m q =>
    have hm := hq m rfl
    rw [runs_cons_blank hm, runs, List.splitOnP_append_cons_of_forall_mem hfill m hm,
      List.filter_cons_of_pos (by simp [hne]), runs]

/-- Lines one by one: a blank one, or a longest run of lines that are not blank. -/
theorem runs_induction {motive : List Line → Prop} (nil : motive [])
    (blank : ∀ l ls, Text.isBlank l.text → motive ls → motive (l :: ls))
    (filled : ∀ p q, p ≠ [] → (∀ l ∈ p, Text.isBlank l.text = false) →
      (∀ l ∈ q.head?, Text.isBlank l.text) → motive q → motive (p ++ q))
    (ls : List Line) : motive ls := by
  induction hk : ls.length using Nat.strong_induction_on generalizing ls with
  | _ k ih =>
    cases ls with
    | nil => exact nil
    | cons first rest =>
      rw [List.length_cons] at hk
      cases hfirst : Text.isBlank first.text with
      | true => exact blank first rest hfirst (ih rest.length (by omega) rest rfl)
      | false =>
        let isFilled (m : Line) : Bool := !Text.isBlank m.text
        have hsplit : first :: rest = (first :: rest.takeWhile isFilled) ++ rest.dropWhile isFilled := by
          rw [List.cons_append, List.takeWhile_append_dropWhile]
        have hlen := (List.dropWhile_sublist isFilled (l := rest)).length_le
        rw [hsplit]
        refine filled _ _ (by simp) (fun m hm => ?_) (fun m hm => ?_) (ih _ (by omega) _ rfl)
        · rcases List.mem_cons.1 hm with rfl | hm
          · exact hfirst
          · simpa [isFilled] using List.mem_takeWhile_imp hm
        · have := List.head?_dropWhile_not isFilled rest
          rw [Option.mem_def.1 hm] at this
          simpa [isFilled] using this

theorem infix_of_mem_runs {ls p : List Line} (hp : p ∈ runs ls) :
    p <:+: ls ∧ p ≠ [] ∧ ∀ l ∈ p, Text.isBlank l.text = false := by
  induction ls using runs_induction with
  | nil => cases hp
  | blank l ls hl ih =>
    rw [runs_cons_blank hl] at hp
    obtain ⟨hpart, h⟩ := ih hp
    exact ⟨List.infix_cons hpart, h⟩
  | filled block rest hne hfill hrest ih =>
    rw [runs_append hne hfill hrest] at hp
    rcases List.mem_cons.1 hp with rfl | hp
    · exact ⟨(List.prefix_append _ _).isInfix, hne, hfill⟩
    · obtain ⟨hpart, h⟩ := ih hp
      exact ⟨hpart.trans (List.suffix_append _ _).isInfix, h⟩

theorem runs_placed {block rest : List Text} (h : Paragraph block rest) (hb : block ≠ []) (i : Nat) :
    runs (placed i (block ++ rest)) =
      placed i block :: runs (placed (i + (following block).length) rest) := by
  rw [placed_append]
  refine runs_append (fun hp => hb ?_) (fun m hm => h.filled m.text ?_) fun m hm => h.stops m.text ?_
  · rw [← map_text_placed i block, hp, List.map_nil]
  · rw [← map_text_placed i block]
    exact List.mem_map_of_mem hm
  · rw [← map_text_placed (i + (following block).length) rest, List.head?_map]
    exact Option.mem_map_of_mem (·.text) hm

/-- In a paragraph the search finds its definition, if it has one, and goes on behind it. -/
theorem scanLines_paragraph (hn : ∀ name ∈ names, Text.newline ∉ name) {block rest : List Text}
    (hls : ∀ m ∈ block ++ rest, Text.newline ∉ m) (hp : Paragraph block rest) (i : Nat) :
    scanLines names i (block ++ rest) = (definitionIn? names (placed i block)).toList ++
      scanLines names (i + (following block).length) rest := by
  have hb : StartsLine (some Text.newline) := fun x hx => (Option.some.inj hx).symm
  induction block generalizing i with
  | nil => rfl
  | cons l block ih =>
    rw [List.cons_append] at hls ⊢
    have hpara : Paragraph block rest := ⟨fun m hm => hp.filled m (List.mem_cons_of_mem _ hm), hp.stops⟩
    by_cases h : Leads names (l :: (block ++ rest))
    · have hleads : Leads names (l :: block) := (leads_append hp).1 h
      rw [← map_text_placed i (l :: block)] at hleads
      rw [definitionIn?_of_leads hleads, spanOf?_placed, scanLines,
        scan_block hn hb hls hp h]
      simp only [Option.toList_some, List.singleton_append, following_cons, List.length_cons]
      congr 2
    · have hleads : ¬ Leads names (l :: block) := mt (leads_append hp).2 h
      rw [← map_text_placed i (l :: block)] at hleads
      rw [scanLines, scan_line hn hb hls h,
        ih (fun m hm => hls m (List.mem_cons_of_mem _ hm)) hpara, placed, definitionIn?_cons hleads]
      simp only [following_cons, List.length_cons, List.length_append]
      congr 2
      omega

theorem exists_paragraph (ls : List Text) : ∃ block rest, ls = block ++ rest ∧ Paragraph block rest := by
  refine ⟨ls.takeWhile (!Text.isBlank ·), ls.dropWhile (!Text.isBlank ·),
    List.takeWhile_append_dropWhile.symm, fun m hm => ?_, fun m hm => ?_⟩
  · simpa using List.mem_takeWhile_imp hm
  · have := List.head?_dropWhile_not (!Text.isBlank ·) ls
    rw [Option.mem_def.1 hm] at this
    simpa using this

/-- The search over lines finds the definitions of their paragraphs. -/
theorem scanLines_eq (hn : ∀ name ∈ names, Text.newline ∉ name) (ls : List Text)
    (hls : ∀ m ∈ ls, Text.newline ∉ m) (i : Nat) :
    scanLines names i ls = (runs (placed i ls)).filterMap (definitionIn? names) := by
  induction hk : ls.length using Nat.strong_induction_on generalizing ls i with
  | _ k ih =>
    have hb : StartsLine (some Text.newline) := fun x hx => (Option.some.inj hx).symm
    obtain ⟨block, rest, rfl, hp⟩ := exists_paragraph ls
    have hrest : ∀ m ∈ rest, Text.newline ∉ m := fun m hm => hls m (List.mem_append_right _ hm)
    rw [List.length_append] at hk
    cases block with
    | nil =>
      cases rest with
      | nil => rfl
      | cons l rest =>
        have hblank : Text.isBlank l = true := hp.stops l rfl
        have h : ¬ Leads names (l :: rest) := fun h => by rw [h.isBlank] at hblank; cases hblank
        rw [List.nil_append, scanLines, scan_line hn hb hrest h, placed, runs_cons_blank hblank]
        rw [List.length_cons] at hk
        exact ih rest.length (by omega) rest (fun m hm => hrest m (List.mem_cons_of_mem _ hm)) _ rfl
    | cons l block =>
      rw [List.length_cons] at hk
      rw [scanLines_paragraph hn hls hp, runs_placed hp (by simp), List.filterMap_cons,
        ih rest.length (by omega) rest hrest _ rfl]
      cases definitionIn? names (placed i (l :: block)) <;> rfl

theorem scan_start (hn : ∀ name ∈ names, Text.newline ∉ name)
    (hls : ∀ m ∈ l :: ls, Text.newline ∉ m) (i : Nat) :
    scan names i 0 none (l ++ following ls) = scanLines names i (l :: ls) := by
  have hnone : StartsLine none := fun x hx => by cases hx
  have hline : StartsLine (some Text.newline) := fun x hx => (Option.some.inj hx).symm
  by_cases h : Leads names (l :: ls)
  · obtain ⟨block, rest, rfl, hp⟩ := exists_paragraph ls
    have hpara : Paragraph (l :: block) rest :=
      ⟨fun m hm => (List.mem_cons.1 hm).elim (fun he => he ▸ h.isBlank) (hp.filled m), hp.stops⟩
    rw [scanLines, scan_block hn hnone hls hpara h, scan_block hn hline hls hpara h]
  · rw [scanLines, scan_line hn hnone hls h, scan_line hn hline hls h]

/-- The definitions of a name are those in the paragraphs of the text. -/
theorem spans?_eq_paragraphs (text name : Text) (hname : Text.isBlank name = false)
    (hline : Text.newline ∉ name) : ∃ hidden, privateName? name = some hidden ∧
      spans? text name = some ((paragraphs text).filterMap (definitionIn? [name, hidden])) := by
  cases name with
  | nil => cases hname
  | cons c rest =>
    obtain ⟨hc, hrest⟩ : c ≠ Text.newline ∧ Text.newline ∉ rest := by simpa [eq_comm] using hline
    refine ⟨_, rfl, ?_⟩
    set hidden : Text := .scalar '_' :: c.upper ++ rest
    have hhidden : Text.newline ∉ hidden := by
      have hunder : Text.newline ≠ .scalar '_' := by decide
      simp [hidden, hunder, CodePoint.newline_notMem_upper hc, hrest]
    have hn : ∀ n ∈ [c :: rest, hidden], Text.newline ∉ n := by
      intro n hm
      rcases List.mem_cons.1 hm with rfl | hm
      · exact hline
      · rw [List.mem_singleton.1 hm]
        exact hhidden
    have hls := newline_notMem_lines text
    have htext := Text.join_split Text.newline text
    change Option.some (scan [c :: rest, hidden] 0 0 none text) = _
    rw [paragraphs, ← scanLines_eq hn _ hls, Option.some_inj]
    cases hlines : Text.lines text with
    | nil => exact absurd hlines (Text.split_ne_nil _ _)
    | cons l ls =>
      rw [hlines] at hls
      rw [← scan_start hn hls, ← join_cons, ← hlines, Text.lines, htext]

theorem spans?_eq_paragraphs_signed : Text.isBlank "f" = false ∧ Text.newline ∉ Text.ofString "f" ∧
    ∃ hidden, privateName? "f" = some hidden ∧ some [⟨3, 18⟩] =
      some ((paragraphs "x\n\n> f a\n= f a\n  b\n \n= ff").filterMap (definitionIn? ["f", hidden])) := by
  refine ⟨by decide, by decide, ?_⟩
  obtain ⟨hidden, hh, hs⟩ := spans?_eq_paragraphs "x\n\n> f a\n= f a\n  b\n \n= ff" "f"
    (by decide) (by decide)
  refine ⟨hidden, hh, ?_⟩
  rw [← hs]
  decide +kernel

end Redraft.Source
