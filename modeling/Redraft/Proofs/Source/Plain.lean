import Redraft.Proofs.Source.Lines
import Redraft.Proofs.Source.Paragraphs

/-!
Plain definitions. A line that binds a name is in the definitions of the name, wherever it stands in
the text. The line `= name`, alone or before arguments, binds the name if the name ends with a word
character; in parentheses it has to start with one too.
-/
namespace Redraft.Source

open Classical

variable {names : List Text} {text name hidden line : Text} {ls : List Line}

/-! From a line to the definition that it is in. -/

theorem newline_notMem_spellings (h : Text.newline ∉ name) (hh : privateName? name = some hidden) :
    ∀ n ∈ [name, hidden], Text.newline ∉ n := by
  have hhidden : Text.newline ∉ hidden := by
    cases name with
    | nil => cases hh
    | cons c rest =>
      obtain ⟨hc, hrest⟩ : c ≠ Text.newline ∧ Text.newline ∉ rest := by simpa [eq_comm] using h
      obtain rfl := Option.some.inj hh
      have hunder : Text.newline ≠ .scalar '_' := by decide
      simp [hunder, CodePoint.newline_notMem_upper hc, hrest]
  intro n hn
  rcases List.mem_cons.1 hn with rfl | hn
  · exact h
  · rw [List.mem_singleton.1 hn]
    exact hhidden

theorem scan_eq (hn : ∀ n ∈ names, Text.newline ∉ n) (text : Text) :
    scan names 0 0 none text = (paragraphs text).filterMap (definitionIn? names) := by
  have hls := newline_notMem_lines text
  have htext := following_lines text
  rw [paragraphs, ← scanLines_eq hn _ hls]
  cases hlines : Text.lines text with
  | nil => exact absurd hlines (Text.split_ne_nil _ _)
  | cons l ls =>
    rw [hlines] at hls htext
    have hjoined : l ++ following ls = text := (List.cons.inj htext).2
    rw [← scan_start hn hls, hjoined]

theorem exists_mem_runs {l : Line} (hl : l ∈ ls) (hfill : Text.isBlank l.text = false) :
    ∃ p ∈ runs ls, l ∈ p ∧ p <:+: ls := by
  induction ls using runs_induction with
  | nil => cases hl
  | blank first ls hfirst ih =>
    rcases List.mem_cons.1 hl with rfl | hl
    · rw [hfill] at hfirst
      cases hfirst
    · obtain ⟨p, hp, hmem, hpart⟩ := ih hl
      exact ⟨p, by rwa [runs_cons_blank hfirst], hmem, List.infix_cons hpart⟩
  | filled block rest hne hblock hrest ih =>
    rw [runs_append hne hblock hrest]
    rcases List.mem_append.1 hl with h | h
    · exact ⟨block, List.mem_cons_self, h, (List.prefix_append _ _).isInfix⟩
    · obtain ⟨p, hp, hmem, hpart⟩ := ih h
      exact ⟨p, List.mem_cons_of_mem _ hp, hmem, hpart.trans (List.suffix_append _ _).isInfix⟩

theorem length_placed (i : Nat) (ls : List Text) : (placed i ls).length = ls.length := by
  rw [← List.length_map (·.text), map_text_placed]

theorem eq_placed_of_infix {block : List Line} {i : Nat} {ls : List Text}
    (h : block <:+: placed i ls) : ∃ above below, ls = above ++ block.map (·.text) ++ below ∧
      block = placed (i + (following above).length) (block.map (·.text)) := by
  obtain ⟨above, below, hplaced⟩ := h
  have hls : ls = above.map (·.text) ++ block.map (·.text) ++ below.map (·.text) := by
    rw [← map_text_placed i ls, ← hplaced, List.map_append, List.map_append]
  refine ⟨_, _, hls, ?_⟩
  rw [hls, List.append_assoc, List.append_assoc, placed_append] at hplaced
  have hrest := (List.append_inj hplaced (by rw [length_placed, List.length_map])).2
  rw [placed_append] at hrest
  exact (List.append_inj hrest (by rw [length_placed, List.length_map])).1

theorem lines_slice {block : List Line} (hblock : block <:+: placed 0 (Text.lines text))
    {span : Span} (h : spanOf? block = some span) :
    Text.lines (span.slice text) = block.map (·.text) := by
  obtain ⟨above, below, hls, hplaced⟩ := eq_placed_of_infix hblock
  have htext := following_lines text
  have hline := newline_notMem_lines text
  rw [hls] at htext hline
  cases hbl : block.map (·.text) with
  | nil =>
    rw [List.map_eq_nil_iff.1 hbl] at h
    cases h
  | cons l rest =>
    rw [hbl] at hplaced htext hline
    rw [hplaced, spanOf?_placed, Nat.zero_add] at h
    obtain rfl := Option.some.inj h
    have hdrop : text.drop (following above).length = l ++ following rest ++ following below := by
      have := congrArg (List.drop ((following above).length + 1)) htext
      rw [List.drop_succ_cons, following_append, following_append, following_cons] at this
      rw [← this, List.append_assoc, List.drop_append, List.drop_eq_nil_of_le (by omega)]
      simp
    have hslice : Span.slice ⟨(following above).length,
        (following above).length + (l ++ following rest).length⟩ text = l ++ following rest := by
      rw [Span.slice, hdrop, Nat.add_sub_cancel_left, List.take_left]
    rw [hslice]
    exact lines_append_following (hline l (by simp)) fun m hm => hline m (by simp [hm])

theorem exists_spanOf? {block : List Line} (h : block ≠ []) : ∃ span, spanOf? block = some span := by
  obtain ⟨last, hlast⟩ := Option.ne_none_iff_exists'.1 (mt List.getLast?_eq_none_iff.1 h)
  cases block with
  | nil => exact absurd rfl h
  | cons first rest => exact ⟨⟨first.start, last.stop⟩, by rw [spanOf?, hlast]; rfl⟩

theorem exists_definitionIn? {p : List Line} {l : Line} (hl : l ∈ p) (hb : Binds names l.text) :
    ∃ block span, definitionIn? names p = some span ∧ spanOf? block = some span ∧ l ∈ block ∧
      block <:+: p := by
  let binds (l : Line) : Bool := decide (Binds names l.text)
  have htail : l ∈ p.dropWhile (!binds ·) := by
    rw [← List.takeWhile_append_dropWhile (p := (!binds ·)) (l := p)] at hl
    rcases List.mem_append.1 hl with h | h
    · have := List.mem_takeWhile_imp h
      simp [binds, hb] at this
    · exact h
  have hne : p.dropWhile (!binds ·) ≠ [] := List.ne_nil_of_mem htail
  have hblock : l ∈ (p.takeWhile (!binds ·)).rtakeWhile (isSignature ·.text) ++ p.dropWhile (!binds ·) :=
    List.mem_append_right _ htail
  obtain ⟨span, hspan⟩ := exists_spanOf? (List.ne_nil_of_mem hblock)
  refine ⟨_, span, ?_, hspan, hblock, ?_⟩
  · rw [definitionIn?]
    dsimp only
    rw [if_neg (by rwa [List.isEmpty_iff]), hspan]
  · obtain ⟨w, hw⟩ := List.rtakeWhile_suffix (isSignature ·.text) (p.takeWhile (!binds ·))
    refine ⟨w, [], ?_⟩
    rw [List.append_nil, ← List.append_assoc, hw, List.takeWhile_append_dropWhile]

/-- What the definitions of a name show of a line: that very line, up to its two ends. -/
def Shown (text name line : Text) : Prop :=
  ∃ found, definitions? text [name] = some found ∧ ∃ l ∈ Text.lines found, Text.trim l = Text.trim line

theorem definitions?_singleton (text name : Text) : definitions? text [name] =
    (blocks? text name).map fun found => Text.trim (Text.join "\n\n" found) := by
  cases h : blocks? text name with
  | none => simp [definitions?, h]
  | some found => simp [definitions?, h]

/-- A line that binds a name is shown. -/
theorem shown_of_binds (hname : Text.newline ∉ name) (hh : privateName? name = some hidden)
    (hl : line ∈ Text.lines text) (hb : Binds [name, hidden] line) : Shown text name line := by
  have hn := newline_notMem_spellings hname hh
  rw [← map_text_placed 0 (Text.lines text)] at hl
  obtain ⟨l, hplace, rfl⟩ := List.mem_map.1 hl
  obtain ⟨p, hp, hlp, hplaced⟩ := exists_mem_runs hplace hb.isBlank
  obtain ⟨block, span, hspan, hblock, hmem, hpart⟩ := exists_definitionIn? hlp hb
  have hfound : span ∈ scan [name, hidden] 0 0 none text := by
    rw [scan_eq hn]
    exact List.mem_filterMap.2 ⟨p, hp, hspan⟩
  have hline : l.text ∈ Text.lines (span.slice text) := by
    rw [lines_slice (hpart.trans hplaced) hblock]
    exact List.mem_map_of_mem hmem
  refine ⟨_, by rw [definitions?_singleton, blocks?, spans?, hh]; rfl, ?_⟩
  exact exists_mem_lines_trim (mem_lines_join hline (List.mem_map_of_mem hfound)) hb.isBlank

/-! Which plain lines bind a name. -/

/-- `= name`, alone or before arguments. -/
def Plain (name line : Text) : Prop :=
  line = "= " ++ name ∨ ∃ args, line = "= " ++ name ++ " " ++ args

/-- `= (name …)`. -/
def Applied (name line : Text) : Prop :=
  .scalar ')' ∉ name ∧ ∃ args, .scalar ')' ∈ args ∧ line = "= (" ++ name ++ " " ++ args

def StartsWord (name : Text) : Prop := name.head?.any (·.isWord)

def EndsWord (name : Text) : Prop := name.getLast?.any (·.isWord)

instance (name : Text) : Decidable (StartsWord name) := inferInstanceAs (Decidable (_ = true))

instance (name : Text) : Decidable (EndsWord name) := inferInstanceAs (Decidable (_ = true))

theorem EndsWord.ne_nil (h : EndsWord name) : name ≠ [] := by
  rintro rfl
  cases h

theorem boundary_of_endsWord (h : EndsWord name) (s : Text) {t : Text}
    (ht : t.head?.any (·.isWord) = false) : Boundary (s ++ name) t := by
  rw [Boundary, List.getLast?_append_of_ne_nil _ h.ne_nil, ht]
  exact fun he => by rw [EndsWord, he] at h; cases h

theorem boundary_of_startsWord (h : StartsWord name) {s : Text}
    (hs : s.getLast?.any (·.isWord) = false) (t : Text) : Boundary s (name ++ t) := by
  cases name with
  | nil => cases h
  | cons c rest =>
    have hc : c.isWord = true := h
    rw [Boundary, hs, List.cons_append, List.head?_cons, Option.any_some, hc]
    exact Bool.false_ne_true

theorem Plain.binds (h : Plain name line) (hw : EndsWord name) : Binds [name, hidden] line := by
  have hequals : Text.ofString "= " = Text.ofString "=" ++ Text.ofString " " := by decide
  have hblank : ∀ c ∈ Text.ofString " ", c.isBlank := by decide
  have ends (rest : Text) (hrest : rest.head?.any (·.isWord) = false) :
      Binds [name, hidden] (Text.ofString "=" ++ Text.ofString " " ++ name ++ rest) :=
    .afterEquals hblank List.mem_cons_self (boundary_of_endsWord hw _ hrest)
  rcases h with rfl | ⟨args, rfl⟩
  · simpa [hequals] using ends [] rfl
  · simpa [hequals] using ends (" " ++ args) rfl

theorem Applied.binds (h : Applied name line) (hfirst : StartsWord name) (hlast : EndsWord name) :
    Binds [name, hidden] line := by
  obtain ⟨-, args, hclose, rfl⟩ := h
  have hopen : Text.ofString "= (" = Text.ofString "=" ++ Text.ofString " " ++ Text.ofString "(" := by
    decide
  have hblank : ∀ c ∈ Text.ofString " ", c.isBlank := by decide
  obtain ⟨inside, rest, rfl, hinside⟩ := List.eq_append_cons_of_mem hclose
  have starts : Boundary (Text.ofString "=" ++ Text.ofString " " ++ Text.ofString "(" ++ [])
      (name ++ (Text.ofString " " ++ inside) ++ Text.ofString ")" ++ rest) := by
    have hbefore : (Text.ofString "=" ++ Text.ofString " " ++ Text.ofString "(" ++ []).getLast?.any
        CodePoint.isWord = false := rfl
    simpa using boundary_of_startsWord hfirst hbefore
      (Text.ofString " " ++ inside ++ Text.ofString ")" ++ rest)
  have ends : Boundary (Text.ofString "=" ++ Text.ofString " " ++ Text.ofString "(" ++ [] ++ name)
      (Text.ofString " " ++ inside ++ Text.ofString ")" ++ rest) := boundary_of_endsWord hlast _ rfl
  have hafter : .scalar ')' ∉ Text.ofString " " ++ inside := by
    rw [List.mem_append, not_or]
    exact ⟨by decide, hinside⟩
  have hbinds := Binds.inParens hblank List.not_mem_nil (List.mem_cons_self (l := [hidden])) hafter
    starts ends
  have hclosed : Text.ofString ")" = [.scalar ')'] := rfl
  simpa [hopen, hclosed] using hbinds

theorem privateName?_eq_some (h : privateName? name = some hidden) :
    name.length < hidden.length ∧ hidden.head? = some (.scalar '_') := by
  cases name with
  | nil => cases h
  | cons c rest =>
    obtain rfl := Option.some.inj h
    have := List.length_pos_of_ne_nil c.upper_ne_nil
    simp only [List.cons_append, List.length_cons, List.length_append, List.head?_cons, and_true]
    omega

theorem eq_equals_of_startsWith (hne : name ≠ []) (hblank : ∀ c ∈ name, c.isBlank = false) {tail : Text}
    (h : Text.ofString "= " ++ name = name ++ tail) : name = "=" ∧ tail = " =" := by
  have hsign : Text.ofString "= " = [.scalar '=', .scalar ' '] := rfl
  rw [hsign] at h
  cases name with
  | nil => exact absurd rfl hne
  | cons c rest =>
    rw [List.cons_append, List.cons_append, List.nil_append, List.cons_append, List.cons.injEq] at h
    obtain ⟨rfl, h⟩ := h
    cases rest with
    | nil => exact ⟨rfl, h.symm⟩
    | cons d rest =>
      rw [List.cons_append, List.cons.injEq] at h
      obtain ⟨rfl, -⟩ := h
      exact absurd (hblank (.scalar ' ') (by simp)) (by decide)

/-- A name that the line `= name` binds ends with a word character or is the equals sign: the second
spelling is too long for the line, or does not start like it. -/
theorem endsWord_of_binds_alone (hne : name ≠ []) (hblank : ∀ c ∈ name, c.isBlank = false)
    (hh : privateName? name = some hidden) (h : Binds [name, hidden] ("= " ++ name)) :
    EndsWord name ∨ name = "=" := by
  have hsign : Text.ofString "= " = [.scalar '=', .scalar ' '] := rfl
  have hequals : Text.ofString "=" = [.scalar '='] := rfl
  obtain ⟨hlonger, hunder⟩ := privateName?_eq_some hh
  have hlen : (Text.ofString "= " ++ name).length = name.length + 2 := by
    rw [List.length_append]
    exact Nat.add_comm _ _
  generalize hline : Text.ofString "= " ++ name = line at h hlen
  cases h with
  | @afterEquals blank spelling rest hblanks mem ends =>
    simp only [List.length_append, hequals, List.length_singleton] at hlen
    simp only [hsign, hequals, List.cons_append, List.nil_append, List.cons.injEq, true_and] at hline
    rcases List.mem_cons.1 mem with rfl | mem
    · cases blank with
      | nil =>
        cases spelling with
        | nil => exact absurd rfl hne
        | cons c spelling =>
          rw [List.nil_append, List.cons_append, List.cons.injEq] at hline
          exact absurd (hblank c List.mem_cons_self) (by rw [← hline.1]; decide)
      | cons w blank =>
        obtain rfl : rest = [] := List.eq_nil_of_length_eq_zero (by simp at hlen; omega)
        refine .inl ?_
        rw [Boundary, List.getLast?_append_of_ne_nil _ hne] at ends
        simpa [EndsWord] using ends
    · obtain rfl := List.mem_singleton.1 mem
      obtain rfl : blank = [] := List.eq_nil_of_length_eq_zero (by omega)
      obtain rfl : rest = [] := List.eq_nil_of_length_eq_zero (by simp at hlen; omega)
      rw [List.nil_append, List.append_nil] at hline
      rw [← hline] at hunder
      cases hunder
  | @inParens blank before spelling after rest hblanks hbefore mem =>
    have hopen : (Text.ofString "(").length = 1 := rfl
    have hclose : (Text.ofString ")").length = 1 := rfl
    simp only [List.length_append, hequals, List.length_singleton, hopen, hclose] at hlen
    rcases List.mem_cons.1 mem with rfl | mem
    · omega
    · obtain rfl := List.mem_singleton.1 mem
      omega
  | @beforeEquals spelling blank rest mem hblanks =>
    rcases List.mem_cons.1 mem with rfl | mem
    · rw [List.append_assoc, List.append_assoc] at hline
      exact .inr (eq_equals_of_startsWith hne hblank hline).1
    · obtain rfl := List.mem_singleton.1 mem
      obtain ⟨rest', rfl⟩ := List.head?_eq_some_iff.1 hunder
      simp [hsign] at hline
  | @afterMark mark before spelling rest isMark mem =>
    rw [testMarks, List.mem_cons, List.mem_singleton] at isMark
    rcases isMark with rfl | rfl
    · have hmark : Text.ofString "=?=" = [.scalar '=', .scalar '?', .scalar '='] := rfl
      simp [hsign, hmark] at hline
    · have hmark : Text.ofString "!!" = [.scalar '!', .scalar '!'] := rfl
      simp [hsign, hmark] at hline
  | @beforeMark before spelling between mark rest mem starts ends isMark =>
    have hmark : 2 ≤ mark.length := by
      rw [testMarks, List.mem_cons, List.mem_singleton] at isMark
      rcases isMark with rfl | rfl <;> decide
    simp only [List.length_append] at hlen
    rcases List.mem_cons.1 mem with rfl | mem
    · obtain rfl : before = [] := List.eq_nil_of_length_eq_zero (by omega)
      rw [List.nil_append, List.append_assoc, List.append_assoc] at hline
      exact .inr (eq_equals_of_startsWith hne hblank hline).1
    · obtain rfl := List.mem_singleton.1 mem
      omega

theorem binds_alone_iff (hne : name ≠ []) (hblank : ∀ c ∈ name, c.isBlank = false)
    (hh : privateName? name = some hidden) :
    Binds [name, hidden] ("= " ++ name) ↔ EndsWord name ∨ name = "=" := by
  constructor
  · exact endsWord_of_binds_alone hne hblank hh
  · rintro (h | rfl)
    · exact Plain.binds (.inl rfl) h
    · have hblanks : ∀ c ∈ Text.ofString " ", c.isBlank := by decide
      have hbinds : Binds [Text.ofString "=", hidden]
          (Text.ofString "=" ++ Text.ofString " " ++ Text.ofString "=" ++ []) :=
        .beforeEquals List.mem_cons_self hblanks
      exact hbinds

theorem definitions?_line (hname : Text.newline ∉ name) (hh : privateName? name = some hidden)
    (hline : Text.newline ∉ line) (hfill : Text.isBlank line = false) :
    definitions? line [name] = some (if Binds [name, hidden] line then Text.trim line else []) := by
  have hn := newline_notMem_spellings hname hh
  have hparagraphs : paragraphs line = [[⟨0, line⟩]] := by
    rw [paragraphs, lines_eq_singleton hline]
    exact runs_append (p := [⟨0, line⟩]) (q := []) (by simp) (by simpa using hfill) (by simp)
  rw [definitions?_singleton, blocks?, spans?, hh, Option.map_some, Option.map_some, Option.map_some,
    scan_eq hn, hparagraphs]
  by_cases hb : Binds [name, hidden] line
  · have hfound : definitionIn? [name, hidden] [⟨0, line⟩] = some ⟨0, line.length⟩ := by
      have hleads : Leads [name, hidden] (([⟨0, line⟩] : List Line).map (·.text)) := Or.inl hb
      rw [definitionIn?_of_leads hleads, spanOf?]
      simp [Line.stop]
    simp [hfound, hb, Span.slice, Text.join]
  · have hnone : definitionIn? [name, hidden] [⟨0, line⟩] = none := by
      simp [definitionIn?, hb]
    simp [hnone, hb, Text.join, Text.trim, Text.trimStart, Text.trimEnd]

/-- Plain definitions are shown wherever they stand, if the name ends with a word character and, in
parentheses, starts with one. If it does not end with one, then the line `= name` is no definition
of the name, unless that is the equals sign. -/
theorem plain_definition_shown (text name : Text) (hne : name ≠ [])
    (hblank : ∀ c ∈ name, c.isBlank = false) :
    (EndsWord name → ∀ line ∈ Text.lines text, Plain name line → Shown text name line) ∧
    (EndsWord name → StartsWord name → ∀ line ∈ Text.lines text, Applied name line →
      Shown text name line) ∧
    definitions? ("= " ++ name) [name] =
      some (if EndsWord name ∨ name = "=" then "= " ++ name else []) := by
  have hname : Text.newline ∉ name := fun h => by cases hblank _ h
  obtain ⟨hidden, hh⟩ : ∃ hidden, privateName? name = some hidden := by
    cases name with
    | nil => exact absurd rfl hne
    | cons c rest => exact ⟨_, rfl⟩
  refine ⟨fun hlast line hl h => shown_of_binds hname hh hl (h.binds hlast),
    fun hlast hfirst line hl h => shown_of_binds hname hh hl (h.binds hfirst hlast), ?_⟩
  have hline : Text.newline ∉ Text.ofString "= " ++ name := by
    rw [List.mem_append, not_or]
    exact ⟨by decide, hname⟩
  have hfill : Text.isBlank (Text.ofString "= " ++ name) = false := rfl
  have htrim : Text.trim (Text.ofString "= " ++ name) = Text.ofString "= " ++ name := by
    have hfull : Text.isBlank name = false := by
      cases name with
      | nil => exact absurd rfl hne
      | cons c rest => rw [Text.isBlank_cons, hblank c List.mem_cons_self, Bool.false_and]
    have hend : Text.trimEnd name = name :=
      List.rdropWhile_eq_self_iff.2 fun hl => by simp [hblank _ (List.getLast_mem hl)]
    have hstart : Text.trimStart (Text.ofString "= " ++ name) = Text.ofString "= " ++ name := rfl
    rw [Text.trim, hstart, Text.trimEnd_append, hfull, if_neg Bool.false_ne_true, hend]
  rw [definitions?_line hname hh hline hfill, htrim]
  simp only [binds_alone_iff hne hblank hh]

theorem plain_definition_shown_second : Text.ofString "inc" ≠ [] ∧
    (∀ c ∈ Text.ofString "inc", c.isBlank = false) ∧ EndsWord "inc" ∧ StartsWord "inc" ∧
    Shown "= dec 1\n; see below\n\n> Nat > Nat\n= (inc n)\n@ add 1 n" "inc" "= (inc n)" ∧
    definitions? "= inc" ["inc"] = some "= inc" := by
  have hblank : ∀ c ∈ Text.ofString "inc", c.isBlank = false := by decide
  obtain ⟨-, happlied, halone⟩ := plain_definition_shown
    "= dec 1\n; see below\n\n> Nat > Nat\n= (inc n)\n@ add 1 n" "inc" (by decide) hblank
  have hlast : EndsWord "inc" := by decide +kernel
  have hfirst : StartsWord "inc" := by decide +kernel
  refine ⟨by decide, hblank, hlast, hfirst, happlied hlast hfirst _ (by decide +kernel)
    ⟨by decide, "n)", by decide, rfl⟩, ?_⟩
  rw [if_pos (.inl hlast)] at halone
  exact halone

/-- A name of operator signs: no line of the text that defines it is shown. -/
theorem plain_definition_not_shown : Text.ofString "{,}" ≠ [] ∧
    (∀ c ∈ Text.ofString "{,}", c.isBlank = false) ∧
    Text.ofString "= {,} a b" ∈ Text.lines "= {,} a b" ∧ Plain "{,}" "= {,} a b" ∧
    ¬ Shown "= {,} a b" "{,}" "= {,} a b" := by
  have hnone : definitions? "= {,} a b" ["{,}"] = some [] := by decide +kernel
  refine ⟨by decide, by decide, by decide +kernel, .inr ⟨"a b", rfl⟩, ?_⟩
  rintro ⟨found, hfound, l, hl, htrim⟩
  obtain rfl := Option.some.inj (hnone.symm.trans hfound)
  obtain rfl : l = [] := List.mem_singleton.1 hl
  revert htrim
  decide +kernel

end Redraft.Source
