import Redraft.Proofs.Source.Cursor
import Redraft.Proofs.Text.Blank
import Redraft.Source.Definitions

/-! Lines that bind or test a name. `Binds names line` gives the five forms of such a line by its
parts; the search for a binding from the start of a line finds one exactly on such lines, and ends
on the same line. -/
namespace Redraft

/-- What a search finds: one thing with a property, if there is any. -/
structure Finds {α : Type} (x : Option α) (p : α → Prop) : Prop where
  sound : ∀ a, x = some a → p a
  complete : ∀ a, p a → x.isSome

namespace Finds

variable {α β : Type} {p : α → Prop} {q : β → Prop}

theorem of_iff {x : Option α} (h : ∀ a, x = some a ↔ p a) : Finds x p :=
  ⟨fun a ha => (h a).1 ha, fun a ha => by rw [(h a).2 ha]; rfl⟩

theorem congr {x : Option α} {p' : α → Prop} (h : Finds x p) (hp : ∀ a, p a ↔ p' a) :
    Finds x p' :=
  ⟨fun a ha => (hp a).1 (h.sound a ha), fun a ha => h.complete a ((hp a).2 ha)⟩

theorem eq_none {x : Option α} (h : Finds x p) (hp : ∀ a, ¬ p a) : x = none :=
  Option.eq_none_iff_forall_ne_some.2 fun a ha => hp a (h.sound a ha)

theorem exists_eq_some {x : Option α} (h : Finds x p) (hp : ∃ a, p a) : ∃ a, x = some a ∧ p a := by
  obtain ⟨a, ha⟩ := hp
  obtain ⟨a', ha'⟩ := Option.isSome_iff_exists.1 (h.complete a ha)
  exact ⟨a', ha', h.sound a' ha'⟩

theorem or {x y : Option α} {p' : α → Prop} (h1 : Finds x p) (h2 : Finds y p') :
    Finds (x.or y) fun a => p a ∨ p' a := by
  refine ⟨fun a ha => ?_, fun a ha => ?_⟩
  · rcases Option.or_eq_some_iff.1 ha with h | ⟨-, h⟩
    · exact Or.inl (h1.sound a h)
    · exact Or.inr (h2.sound a h)
  · rw [Option.isSome_or, Bool.or_eq_true]
    exact ha.imp (h1.complete a) (h2.complete a)

theorem head? (l : List α) : Finds l.head? (· ∈ l) := by
  refine ⟨fun a => List.mem_of_mem_head?, fun a ha => ?_⟩
  cases l with
  | nil => simp at ha
  | cons b l => rfl

theorem findSome? (l : List α) {f : α → Option β} {q : α → β → Prop} (h : ∀ a, Finds (f a) (q a)) :
    Finds (l.findSome? f) fun b => ∃ a ∈ l, q a b := by
  refine ⟨fun b hb => ?_, ?_⟩
  · obtain ⟨a, ha, hf⟩ := List.exists_of_findSome?_eq_some hb
    exact ⟨a, ha, (h a).sound b hf⟩
  · rintro b ⟨a, ha, hq⟩
    exact List.findSome?_isSome_iff.2 ⟨a, ha, (h a).complete b hq⟩

theorem bind {x : Option α} {f : α → Option β} {q : α → β → Prop} (hx : ∀ a, x = some a ↔ p a)
    (h : ∀ a, Finds (f a) (q a)) : Finds (x.bind f) fun b => ∃ a, p a ∧ q a b := by
  refine ⟨fun b hb => ?_, ?_⟩
  · obtain ⟨a, ha, hf⟩ := Option.bind_eq_some_iff.1 hb
    exact ⟨a, (hx a).1 ha, (h a).sound b hf⟩
  · rintro b ⟨a, ha, hq⟩
    rw [(hx a).2 ha]
    exact (h a).complete b hq

end Finds

namespace Source

open Cursor

/-! Searches, in terms of moves. -/

variable {names : List Text} {c d e : Cursor}

theorem mem_spelled : e ∈ spelled names c ↔ (∃ name ∈ names, Passes name c e) ∧ e.atBoundary := by
  simp only [spelled, List.mem_filter, List.mem_filterMap, skip?_eq_some]

theorem mem_mentioned : e ∈ mentioned names c ↔
    c.atBoundary ∧ (∃ name ∈ names, Passes name c e) ∧ e.atBoundary := by
  unfold mentioned
  split
  · next h => simp [mem_spelled, h]
  · next h => simp [h]

theorem finds_skipTestMark? : Finds (skipTestMark? c) fun e => ∃ mark ∈ testMarks, Passes mark c e :=
  Finds.findSome? testMarks fun _ => Finds.of_iff fun _ => skip?_eq_some

/-- What the search for a binding may find, form by form. -/
inductive Bound (names : List Text) (c e : Cursor) : Prop where
  | afterEquals {d m : Cursor} {blank name : Text} (equals : Passes "=" c d)
      (isBlank : ∀ x ∈ blank, isInline x) (skips : Passes blank d m)
      (mem : name ∈ names) (named : Passes name m e) (ends : e.atBoundary)
  | inParens {d p m n : Cursor} {blank before name after : Text} (equals : Passes "=" c d)
      (isBlank : ∀ x ∈ blank, isInline x) (opens : Passes (blank ++ "(") d p)
      (isBefore : ∀ x ∈ before, inParens x) (reads : Passes before p m) (starts : m.atBoundary)
      (mem : name ∈ names) (named : Passes name m n) (ends : n.atBoundary)
      (isAfter : ∀ x ∈ after, inParens x) (closes : Passes (after ++ ")") n e)
  | beforeEquals {m : Cursor} {name blank : Text} (mem : name ∈ names) (named : Passes name c m)
      (isBlank : ∀ x ∈ blank, isInline x) (equals : Passes (blank ++ "=") m e)
  | afterMark {d m : Cursor} {mark before name : Text} (isMark : mark ∈ testMarks)
      (marked : Passes mark c d) (isBefore : ∀ x ∈ before, inLine x) (reads : Passes before d m)
      (starts : m.atBoundary) (mem : name ∈ names) (named : Passes name m e) (ends : e.atBoundary)
  | beforeMark {m n p : Cursor} {before name between mark : Text}
      (isBefore : ∀ x ∈ before, inLine x) (reads : Passes before c m) (starts : m.atBoundary)
      (mem : name ∈ names) (named : Passes name m n) (ends : n.atBoundary)
      (isBetween : ∀ x ∈ between, inLine x) (skips : Passes between n p)
      (isMark : mark ∈ testMarks) (marked : Passes mark p e)

theorem finds_boundAfterEquals? : Finds (boundAfterEquals? names c) fun e =>
    ∃ d, Passes "=" c d ∧ ∃ m ∈ d.reach isInline, e ∈ spelled names m :=
  Finds.bind (fun _ => skip?_eq_some) fun _ => Finds.findSome? _ fun _ => Finds.head? _

theorem finds_boundInParens? : Finds (boundInParens? names c) fun e =>
    ∃ d, Passes "=" c d ∧ ∃ p, (∃ w : Text, (∀ x ∈ w, isInline x) ∧ Passes (w ++ "(") d p) ∧
      ∃ m ∈ p.reach inParens, ∃ n ∈ mentioned names m,
        ∃ w : Text, (∀ x ∈ w, inParens x) ∧ Passes (w ++ ")") n e := by
  refine Finds.bind (fun _ => skip?_eq_some) fun d => ?_
  refine Finds.bind (fun _ => skip?_advance (by decide)) fun p => ?_
  refine Finds.findSome? _ fun m => Finds.findSome? _ fun n => ?_
  exact Finds.of_iff fun _ => skip?_advance (by decide)

theorem finds_boundBeforeEquals? : Finds (boundBeforeEquals? names c) fun e =>
    ∃ m ∈ names.filterMap (c.skip? ·), ∃ w : Text, (∀ x ∈ w, isInline x) ∧ Passes (w ++ "=") m e :=
  Finds.findSome? _ fun _ => Finds.of_iff fun _ => skip?_advance (by decide)

/-- The marks start differently, so at most one of them comes next. -/
theorem skipTestMark?_eq_some : skipTestMark? c = some e ↔ ∃ mark ∈ testMarks, Passes mark c e := by
  refine ⟨finds_skipTestMark?.sound e, ?_⟩
  rintro ⟨mark, hm, h⟩
  obtain ⟨e', he', mark', hm', h'⟩ := finds_skipTestMark?.exists_eq_some ⟨e, mark, hm, h⟩
  have hr : mark ++ e.rest = mark' ++ e'.rest := by rw [← h.rest, h'.rest]
  have hb := h.before
  have hb' := h'.before
  simp only [testMarks, List.mem_cons, List.not_mem_nil, or_false] at hm hm'
  obtain ⟨eb, er⟩ := e
  obtain ⟨eb', er'⟩ := e'
  rcases hm with rfl | rfl <;> rcases hm' with rfl | rfl <;>
    simp_all [Text.ofString]

theorem finds_testedAfterMark? : Finds (testedAfterMark? names c) fun e =>
    ∃ d, (∃ mark ∈ testMarks, Passes mark c d) ∧ ∃ m ∈ d.reach inLine, e ∈ mentioned names m :=
  Finds.bind (fun _ => skipTestMark?_eq_some) fun _ => Finds.findSome? _ fun _ => Finds.head? _

theorem finds_testedBeforeMark? : Finds (testedBeforeMark? names c) fun e =>
    ∃ m ∈ c.reach inLine, ∃ n ∈ mentioned names m, ∃ p ∈ n.reach inLine,
      ∃ mark ∈ testMarks, Passes mark p e :=
  Finds.findSome? _ fun _ => Finds.findSome? _ fun _ => Finds.findSome? _ fun _ =>
    finds_skipTestMark?

theorem bound_iff : Bound names c e ↔
    (∃ d, Passes "=" c d ∧ ∃ m ∈ d.reach isInline, e ∈ spelled names m) ∨
    (∃ d, Passes "=" c d ∧ ∃ p, (∃ w : Text, (∀ x ∈ w, isInline x) ∧ Passes (w ++ "(") d p) ∧
      ∃ m ∈ p.reach inParens, ∃ n ∈ mentioned names m,
        ∃ w : Text, (∀ x ∈ w, inParens x) ∧ Passes (w ++ ")") n e) ∨
    (∃ m ∈ names.filterMap (c.skip? ·), ∃ w : Text, (∀ x ∈ w, isInline x) ∧ Passes (w ++ "=") m e) ∨
    (∃ d, (∃ mark ∈ testMarks, Passes mark c d) ∧ ∃ m ∈ d.reach inLine, e ∈ mentioned names m) ∨
    (∃ m ∈ c.reach inLine, ∃ n ∈ mentioned names m, ∃ p ∈ n.reach inLine,
      ∃ mark ∈ testMarks, Passes mark p e) := by
  simp only [mem_reach, mem_spelled, mem_mentioned, List.mem_filterMap, skip?_eq_some]
  constructor
  · rintro (⟨h1, h2, h3, h4, h5, h6⟩ | ⟨h1, h2, h3, h4, h5, h6, h7, h8, h9, h10, h11⟩ |
      ⟨h1, h2, h3, h4⟩ | ⟨h1, h2, h3, h4, h5, h6, h7, h8⟩ | ⟨h1, h2, h3, h4, h5, h6, h7, h8, h9, h10⟩)
    · exact Or.inl ⟨_, h1, _, ⟨_, h2, h3⟩, ⟨_, h4, h5⟩, h6⟩
    · exact Or.inr (Or.inl ⟨_, h1, _, ⟨_, h2, h3⟩, _, ⟨_, h4, h5⟩, _, ⟨h6, ⟨_, h7, h8⟩, h9⟩, _, h10, h11⟩)
    · exact Or.inr (Or.inr (Or.inl ⟨_, ⟨_, h1, h2⟩, _, h3, h4⟩))
    · exact Or.inr (Or.inr (Or.inr (Or.inl ⟨_, ⟨_, h1, h2⟩, _, ⟨_, h3, h4⟩, h5, ⟨_, h6, h7⟩, h8⟩)))
    · exact Or.inr (Or.inr (Or.inr (Or.inr
        ⟨_, ⟨_, h1, h2⟩, _, ⟨h3, ⟨_, h4, h5⟩, h6⟩, _, ⟨_, h7, h8⟩, _, h9, h10⟩)))
  · rintro (⟨_, h1, _, ⟨_, h2, h3⟩, ⟨_, h4, h5⟩, h6⟩ |
      ⟨_, h1, _, ⟨_, h2, h3⟩, _, ⟨_, h4, h5⟩, _, ⟨h6, ⟨_, h7, h8⟩, h9⟩, _, h10, h11⟩ |
      ⟨_, ⟨_, h1, h2⟩, _, h3, h4⟩ | ⟨_, ⟨_, h1, h2⟩, _, ⟨_, h3, h4⟩, h5, ⟨_, h6, h7⟩, h8⟩ |
      ⟨_, ⟨_, h1, h2⟩, _, ⟨h3, ⟨_, h4, h5⟩, h6⟩, _, ⟨_, h7, h8⟩, _, h9, h10⟩)
    · exact .afterEquals h1 h2 h3 h4 h5 h6
    · exact .inParens h1 h2 h3 h4 h5 h6 h7 h8 h9 h10 h11
    · exact .beforeEquals h1 h2 h3 h4
    · exact .afterMark h1 h2 h3 h4 h5 h6 h7 h8
    · exact .beforeMark h1 h2 h3 h4 h5 h6 h7 h8 h9 h10

theorem finds_bound? : Finds (bound? names c) (Bound names c) := by
  refine Finds.congr ?_ fun e => bound_iff.symm
  exact finds_boundAfterEquals?.or <| finds_boundInParens?.or <|
    finds_boundBeforeEquals?.or <| finds_testedAfterMark?.or finds_testedBeforeMark?

/-! The same on a line. -/

/-- A place between two texts that has a word character on exactly one side. -/
def Boundary (before after : Text) : Prop :=
  before.getLast?.any (·.isWord) ≠ after.head?.any (·.isWord)

/-- The forms of a line that binds or tests one of some names. -/
inductive Binds (names : List Text) : Text → Prop where
  /-- `= name` -/
  | afterEquals {blank name rest : Text} (isBlank : ∀ x ∈ blank, x.isBlank) (mem : name ∈ names)
      (ends : Boundary ("=" ++ blank ++ name) rest) : Binds names ("=" ++ blank ++ name ++ rest)
  /-- `= (… name …)` -/
  | inParens {blank before name after rest : Text} (isBlank : ∀ x ∈ blank, x.isBlank)
      (isBefore : .scalar ')' ∉ before) (mem : name ∈ names) (isAfter : .scalar ')' ∉ after)
      (starts : Boundary ("=" ++ blank ++ "(" ++ before) (name ++ after ++ ")" ++ rest))
      (ends : Boundary ("=" ++ blank ++ "(" ++ before ++ name) (after ++ ")" ++ rest)) :
      Binds names ("=" ++ blank ++ "(" ++ before ++ name ++ after ++ ")" ++ rest)
  /-- `name =` -/
  | beforeEquals {name blank rest : Text} (mem : name ∈ names) (isBlank : ∀ x ∈ blank, x.isBlank) :
      Binds names (name ++ blank ++ "=" ++ rest)
  /-- A test mark, and the name later. -/
  | afterMark {mark before name rest : Text} (isMark : mark ∈ testMarks) (mem : name ∈ names)
      (starts : Boundary (mark ++ before) (name ++ rest))
      (ends : Boundary (mark ++ before ++ name) rest) : Binds names (mark ++ before ++ name ++ rest)
  /-- The name, and a test mark later. -/
  | beforeMark {before name between mark rest : Text} (mem : name ∈ names)
      (starts : Boundary before (name ++ between ++ mark ++ rest))
      (ends : Boundary (before ++ name) (between ++ mark ++ rest)) (isMark : mark ∈ testMarks) :
      Binds names (before ++ name ++ between ++ mark ++ rest)

theorem Binds.isBlank {l : Text} (h : Binds names l) : Text.isBlank l = false := by
  have hequals : Text.isBlank (Text.ofString "=") = false := rfl
  have hmark : ∀ mark ∈ testMarks, Text.isBlank mark = false := by decide
  cases h with
  | afterEquals => simp [Text.isBlank_append, hequals]
  | inParens => simp [Text.isBlank_append, hequals]
  | beforeEquals => simp [Text.isBlank_append, hequals]
  | afterMark isMark => simp [Text.isBlank_append, hmark _ isMark]
  | beforeMark _ _ _ isMark => simp [Text.isBlank_append, hmark _ isMark]

def EndsLine (t : Text) : Prop := ∀ x ∈ t.head?, x = Text.newline

def StartsLine (b : Option CodePoint) : Prop := ∀ x ∈ b, x = Text.newline

theorem StartsLine.any_isWord {b : Option CodePoint} (hb : StartsLine b) :
    b.any (·.isWord) = false := by
  cases b with
  | none => rfl
  | some x => rw [hb x rfl]; rfl

theorem EndsLine.any_isWord {t : Text} (ht : EndsLine t) : t.head?.any (·.isWord) = false :=
  StartsLine.any_isWord ht

/-- The place that splits a line into `w` and `r`, with `b` before the line and `t` after it. -/
def onLine (b : Option CodePoint) (t w r : Text) : Cursor := ⟨w.getLast?.or b, r ++ t⟩

variable {b : Option CodePoint} {w v r l t : Text}

theorem passes_onLine (b : Option CodePoint) (t w v r : Text) :
    Passes v (onLine b t w (v ++ r)) (onLine b t (w ++ v) r) := by
  refine ⟨List.append_assoc _ _ _, ?_⟩
  simp only [onLine, List.getLast?_append]
  cases v.getLast? <;> rfl

theorem passes_in_line (ht : EndsLine t) (hv : Text.newline ∉ v) (h : Passes v (onLine b t w l) e) :
    ∃ r, l = v ++ r ∧ e = onLine b t (w ++ v) r := by
  obtain ⟨r, hr, hs⟩ : ∃ r, l = v ++ r ∧ e.rest = r ++ t := by
    rcases List.append_eq_append_iff.1 h.rest with ⟨a, ha, hs⟩ | ⟨a, ha, hs⟩
    · cases a with
      | nil => exact ⟨[], by simpa using ha.symm, by simpa using hs.symm⟩
      | cons x a =>
        have hx : x = Text.newline := ht x (by simp [hs])
        exact absurd (by simp [ha, hx]) hv
    · exact ⟨a, ha, hs⟩
  refine ⟨r, hr, ?_⟩
  obtain ⟨eb, er⟩ := e
  obtain rfl : er = r ++ t := hs
  have hb : eb = v.getLast?.or (w.getLast?.or b) := h.before
  rw [hb, onLine, List.getLast?_append]
  cases v.getLast? <;> rfl

theorem atBoundary_onLine (hb : StartsLine b) (ht : EndsLine t) :
    (onLine b t w r).atBoundary ↔ Boundary w r := by
  have hleft : (w.getLast?.or b).any (·.isWord) = w.getLast?.any (·.isWord) := by
    cases w.getLast? with
    | none => simpa using hb.any_isWord
    | some x => rfl
  have hright : (r ++ t).head?.any (·.isWord) = r.head?.any (·.isWord) := by
    cases r with
    | nil => simpa using ht.any_isWord
    | cons x r => rfl
  simp only [Cursor.atBoundary, onLine, hleft, hright, Boundary, bne_iff_ne]

theorem newline_notMem {allowed : CodePoint → Bool} (hx : allowed Text.newline = false)
    (hw : ∀ x ∈ w, allowed x) : Text.newline ∉ w := by
  intro h
  rw [hw _ h] at hx
  cases hx

theorem newline_notMem_mark {mark : Text} (h : mark ∈ testMarks) : Text.newline ∉ mark := by
  revert mark
  decide

theorem isBlank_of_isInline (h : ∀ x ∈ w, isInline x) : ∀ x ∈ w, x.isBlank :=
  fun x hx => (Bool.and_eq_true_iff.1 (h x hx)).1

theorem Bound.binds (hn : ∀ name ∈ names, Text.newline ∉ name) (hb : StartsLine b)
    (ht : EndsLine t) (h : Bound names (onLine b t [] l) e) :
    Binds names l ∧ ∃ w r, l = w ++ r ∧ e = onLine b t w r := by
  have bounded : ∀ {w r}, (onLine b t w r).atBoundary → Boundary w r :=
    (atBoundary_onLine hb ht).1
  cases h with
  | @afterEquals _ _ blank name equals isBlank skips mem named ends =>
    obtain ⟨_, rfl, rfl⟩ := passes_in_line ht (by decide) equals
    obtain ⟨_, rfl, rfl⟩ := passes_in_line ht (newline_notMem (by decide) isBlank) skips
    obtain ⟨r, rfl, rfl⟩ := passes_in_line ht (hn _ mem) named
    have hl := Binds.afterEquals (isBlank_of_isInline isBlank) mem (bounded ends)
    exact ⟨by simpa using hl, _, _, by simp, rfl⟩
  | @inParens _ _ _ _ blank before name after equals isBlank opens isBefore reads starts mem named ends
      isAfter closes =>
    obtain ⟨p, skips, opens⟩ := opens.split
    obtain ⟨q, passed, closes⟩ := closes.split
    obtain ⟨_, rfl, rfl⟩ := passes_in_line ht (by decide) equals
    obtain ⟨_, rfl, rfl⟩ := passes_in_line ht (newline_notMem (by decide) isBlank) skips
    obtain ⟨_, rfl, rfl⟩ := passes_in_line ht (by decide) opens
    obtain ⟨_, rfl, rfl⟩ := passes_in_line ht (newline_notMem (by decide) isBefore) reads
    obtain ⟨_, rfl, rfl⟩ := passes_in_line ht (hn _ mem) named
    obtain ⟨_, rfl, rfl⟩ := passes_in_line ht (newline_notMem (by decide) isAfter) passed
    obtain ⟨r, rfl, rfl⟩ := passes_in_line ht (by decide) closes
    have hbefore : .scalar ')' ∉ before := fun h => absurd (isBefore _ h) (by decide)
    have hafter : .scalar ')' ∉ after := fun h => absurd (isAfter _ h) (by decide)
    have hl : Binds names ("=" ++ blank ++ "(" ++ before ++ name ++ after ++ ")" ++ r) :=
      .inParens (isBlank_of_isInline isBlank) hbefore mem hafter (by simpa using bounded starts)
        (by simpa using bounded ends)
    exact ⟨by simpa using hl, _, _, by simp, rfl⟩
  | @beforeEquals _ name blank mem named isBlank equals =>
    obtain ⟨p, skips, equals⟩ := equals.split
    obtain ⟨_, rfl, rfl⟩ := passes_in_line ht (hn _ mem) named
    obtain ⟨_, rfl, rfl⟩ := passes_in_line ht (newline_notMem (by decide) isBlank) skips
    obtain ⟨r, rfl, rfl⟩ := passes_in_line ht (by decide) equals
    have hl : Binds names (name ++ blank ++ "=" ++ r) :=
      .beforeEquals mem (isBlank_of_isInline isBlank)
    exact ⟨by simpa using hl, _, _, by simp, rfl⟩
  | @afterMark _ _ mark before name isMark marked isBefore reads starts mem named ends =>
    obtain ⟨_, rfl, rfl⟩ := passes_in_line ht (newline_notMem_mark isMark) marked
    obtain ⟨_, rfl, rfl⟩ := passes_in_line ht (newline_notMem (by decide) isBefore) reads
    obtain ⟨r, rfl, rfl⟩ := passes_in_line ht (hn _ mem) named
    have hl := Binds.afterMark isMark mem (bounded starts) (bounded ends)
    exact ⟨by simpa using hl, _, _, by simp, rfl⟩
  | @beforeMark _ _ _ before name between mark isBefore reads starts mem named ends isBetween skips
      isMark marked =>
    obtain ⟨_, rfl, rfl⟩ := passes_in_line ht (newline_notMem (by decide) isBefore) reads
    obtain ⟨_, rfl, rfl⟩ := passes_in_line ht (hn _ mem) named
    obtain ⟨_, rfl, rfl⟩ := passes_in_line ht (newline_notMem (by decide) isBetween) skips
    obtain ⟨r, rfl, rfl⟩ := passes_in_line ht (newline_notMem_mark isMark) marked
    have hl : Binds names (before ++ name ++ between ++ mark ++ r) :=
      .beforeMark mem (by simpa using bounded starts) (by simpa using bounded ends) isMark
    exact ⟨by simpa using hl, _, _, by simp, rfl⟩

theorem Binds.bound (hb : StartsLine b) (ht : EndsLine t) (hl : Text.newline ∉ l)
    (h : Binds names l) : ∃ e, Bound names (onLine b t [] l) e := by
  have bounded : ∀ {w r}, Boundary w r → (onLine b t w r).atBoundary :=
    (atBoundary_onLine hb ht).2
  -- a part of the line has no line end
  have inside : ∀ {p : Text}, p <:+: l → ∀ x ∈ p, inLine x := by
    rintro p hp x hx
    have : x ≠ Text.newline := fun he => hl (hp.subset (he ▸ hx))
    simp [inLine, this]
  have inlined : ∀ {p : Text}, p <:+: l → (∀ x ∈ p, x.isBlank) → ∀ x ∈ p, isInline x := by
    intro p hp hx x hm
    have : x ≠ Text.newline := fun he => hl (hp.subset (he ▸ hm))
    simp [isInline, hx x hm, this]
  have unclosed : ∀ {p : Text}, p <:+: l → .scalar ')' ∉ p → ∀ x ∈ p, Source.inParens x := by
    intro p hp hc x hx
    have : x ≠ .scalar ')' := fun he => hc (he ▸ hx)
    simp only [Source.inParens, Bool.and_eq_true, decide_eq_true_eq]
    exact ⟨by simpa [inLine] using inside hp x hx, this⟩
  cases h with
  | @afterEquals blank name rest isBlank mem ends =>
    have isBlank := inlined ⟨"=", name ++ rest, by simp⟩ isBlank
    simp only [List.append_assoc] at ends ⊢
    exact ⟨_, .afterEquals (passes_onLine ..) isBlank (passes_onLine ..) mem (passes_onLine ..)
      (bounded (by simpa using ends))⟩
  | @inParens blank before name after rest isBlank isBefore mem isAfter starts ends =>
    have isBlank := inlined ⟨"=", "(" ++ before ++ name ++ after ++ ")" ++ rest, by simp⟩ isBlank
    have isBefore := unclosed ⟨"=" ++ blank ++ "(", name ++ after ++ ")" ++ rest, by simp⟩ isBefore
    have isAfter := unclosed ⟨"=" ++ blank ++ "(" ++ before ++ name, ")" ++ rest, by simp⟩ isAfter
    simp only [List.append_assoc] at starts ends ⊢
    exact ⟨_, .inParens (passes_onLine ..) isBlank ((passes_onLine ..).trans (passes_onLine ..))
      isBefore (passes_onLine ..) (bounded (by simpa using starts)) mem (passes_onLine ..)
      (bounded (by simpa using ends)) isAfter ((passes_onLine ..).trans (passes_onLine ..))⟩
  | @beforeEquals name blank rest mem isBlank =>
    have isBlank := inlined ⟨name, "=" ++ rest, by simp⟩ isBlank
    simp only [List.append_assoc]
    exact ⟨_, .beforeEquals mem (passes_onLine ..) isBlank
      ((passes_onLine ..).trans (passes_onLine ..))⟩
  | @afterMark mark before name rest isMark mem starts ends =>
    have isBefore := inside (p := before) ⟨mark, name ++ rest, by simp⟩
    simp only [List.append_assoc] at starts ends ⊢
    exact ⟨_, .afterMark isMark (passes_onLine ..) isBefore (passes_onLine ..)
      (bounded (by simpa using starts)) mem (passes_onLine ..) (bounded (by simpa using ends))⟩
  | @beforeMark before name between mark rest mem starts ends isMark =>
    have isBefore := inside (p := before) ⟨[], name ++ between ++ mark ++ rest, by simp⟩
    have isBetween := inside (p := between) ⟨before ++ name, mark ++ rest, by simp⟩
    simp only [List.append_assoc] at starts ends ⊢
    exact ⟨_, .beforeMark isBefore (passes_onLine ..) (bounded (by simpa using starts)) mem
      (passes_onLine ..) (bounded (by simpa using ends)) isBetween (passes_onLine ..) isMark
      (passes_onLine ..)⟩

/-- From the start of a line, a binding is found exactly if the line has one, and on that line. -/
theorem finds_bound?_line (hn : ∀ name ∈ names, Text.newline ∉ name) (hb : StartsLine b)
    (ht : EndsLine t) (hl : Text.newline ∉ l) : Finds (bound? names ⟨b, l ++ t⟩) fun e =>
      Binds names l ∧ ∃ w r, l = w ++ r ∧ e.rest = r ++ t := by
  refine ⟨fun e he => ?_, ?_⟩
  · obtain ⟨h, w, r, hl, rfl⟩ := (finds_bound?.sound e he).binds hn hb ht
    exact ⟨h, w, r, hl, rfl⟩
  · rintro e ⟨h, -⟩
    obtain ⟨e', he'⟩ := h.bound hb ht hl
    exact finds_bound?.complete e' he'

end Source

end Redraft
