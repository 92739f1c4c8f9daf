import Redraft.Proofs.Source.Binding
import Redraft.Proofs.Text.Split

/-! Blocks on lines. From the start of a line, past signature lines, a block is found exactly if the
lines lead to one that binds the name, and it ends with the paragraph. -/
namespace Redraft.Source

/-! Lines, and the search on lines. -/

def following (ls : List Text) : Text := ls.flatMap (Text.newline :: ·)

variable {names : List Text} {b : Option CodePoint} {l : Text} {ls : List Text}

theorem following_cons (l : Text) (ls : List Text) :
    following (l :: ls) = Text.newline :: (l ++ following ls) := rfl

theorem following_append (ls ms : List Text) :
    following (ls ++ ms) = following ls ++ following ms := List.flatMap_append

theorem endsLine_following (ls : List Text) : EndsLine (following ls) := by
  cases ls with
  | nil => intro x hx; simp [following] at hx
  | cons l ls => intro x hx; simpa [following, eq_comm] using hx

theorem join_cons (l : Text) (ls : List Text) :
    Text.join [Text.newline] (l :: ls) = l ++ following ls := by
  induction ls generalizing l with
  | nil => simp [Text.join, following]
  | cons m ls ih => simp [Text.join, ih m, following]

theorem newline_notMem_lines (t : Text) : ∀ l ∈ Text.lines t, Text.newline ∉ l :=
  Text.sep_notMem_split t

theorem lines_append_following {r : Text} (hr : Text.newline ∉ r)
    (hls : ∀ l ∈ ls, Text.newline ∉ l) : Text.lines (r ++ following ls) = r :: ls := by
  rw [← join_cons]
  refine Text.split_join (by simp) fun l hl => ?_
  rcases List.mem_cons.1 hl with rfl | hl
  · exact hr
  · exact hls l hl

/-- Lines that are not blank, up to one that is or to the end. -/
structure Paragraph (block rest : List Text) : Prop where
  filled : ∀ l ∈ block, Text.isBlank l = false
  stops : ∀ l ∈ rest.head?, Text.isBlank l = true

theorem Paragraph.takeWhile {block rest : List Text} (h : Paragraph block rest) :
    (block ++ rest).takeWhile (fun l => !Text.isBlank l) = block := by
  rw [List.takeWhile_append_of_pos fun l hl => by simp [h.filled l hl]]
  cases rest with
  | nil => simp
  | cons l rest => rw [List.takeWhile_cons_of_neg (by simp [h.stops l rfl]), List.append_nil]

theorem blockLength_line {r : Text} {block rest : List Text} (hr : Text.newline ∉ r)
    (hls : ∀ l ∈ block ++ rest, Text.newline ∉ l) (h : Paragraph block rest) :
    blockLength (r ++ following (block ++ rest)) = (r ++ following block).length := by
  have fold : ∀ (ls : List Text) (n : Nat),
      ls.foldl (fun n l => n + (l.length + 1)) n = n + (following ls).length := by
    intro ls
    induction ls with
    | nil => intro n; rfl
    | cons l ls ih =>
      intro n
      simp only [List.foldl_cons, ih, following, List.flatMap_cons, List.length_append,
        List.length_cons]
      omega
  rw [blockLength, lines_append_following hr hls]
  simp only [h.takeWhile, fold, List.length_append]

def isSignature (l : Text) : Bool := l.head? = some (.scalar '>')

/-- Whether a definition starts at the first of some lines: it binds the name, or is a signature
line before lines with one. -/
def Leads (names : List Text) : List Text → Prop
  | [] => False
  | l :: ls => Binds names l ∨ isSignature l ∧ Leads names ls

theorem isBlank_of_isSignature (h : isSignature l) : Text.isBlank l = false := by
  cases l with
  | nil => simp [isSignature] at h
  | cons x l =>
    obtain rfl : x = .scalar '>' := by simpa [isSignature] using h
    rfl

theorem Leads.isBlank (h : Leads names (l :: ls)) : Text.isBlank l = false := by
  rcases h with h | ⟨h, -⟩
  · exact h.isBlank
  · exact isBlank_of_isSignature h

theorem skip_signature (hl : Text.newline ∉ l) (d : Cursor) :
    (((⟨b, l ++ following ls⟩ : Cursor).skip? ">").bind fun c => (c.advance inLine).skip? "\n") = some d ↔
      isSignature l ∧ ∃ m ms, ls = m :: ms ∧ d = ⟨some Text.newline, m ++ following ms⟩ := by
  have hmoves : (((⟨b, l ++ following ls⟩ : Cursor).skip? ">").bind fun c =>
      (c.advance inLine).skip? "\n") = some d ↔ ∃ c, Cursor.Passes ">" (onLine b (following ls) [] l) c ∧
        ∃ w : Text, (∀ y ∈ w, inLine y) ∧ Cursor.Passes (w ++ "\n") c d := by
    rw [Option.bind_eq_some_iff]
    exact exists_congr fun c => and_congr Cursor.skip?_eq_some (Cursor.skip?_advance (by decide))
  rw [hmoves]
  constructor
  · rintro ⟨c, hc, w, hw, hd⟩
    obtain ⟨e, passed, ends⟩ := hd.split
    have ht := endsLine_following ls
    obtain ⟨r, rfl, rfl⟩ := passes_in_line ht (by decide) hc
    obtain ⟨q, rfl, rfl⟩ := passes_in_line ht (newline_notMem (by decide) hw) passed
    refine ⟨rfl, ?_⟩
    -- the line end is not on the line, so the line is at its end
    obtain rfl : q = [] := by
      cases q with
      | nil => rfl
      | cons x q =>
        have hx : x = Text.newline := (List.cons.inj ends.rest).1
        simp [hx] at hl
    obtain ⟨db, dr⟩ := d
    obtain rfl : db = some Text.newline := ends.before
    have hr : following ls = Text.newline :: dr := ends.rest
    cases ls with
    | nil => simp [following] at hr
    | cons m ms => exact ⟨m, ms, rfl, by simpa [following] using hr.symm⟩
  · rintro ⟨hs, m, ms, rfl, rfl⟩
    cases l with
    | nil => simp [isSignature] at hs
    | cons x l =>
      obtain rfl : x = .scalar '>' := by simpa [isSignature] using hs
      refine ⟨_, passes_onLine b _ [] ">" l, l, fun y hy => ?_, ?_⟩
      · have : y ≠ Text.newline := fun he => hl (by simp [← he, hy])
        simp [inLine, this]
      · have h1 := passes_onLine b (following (m :: ms)) (Text.ofString ">") l []
        rw [List.append_nil] at h1
        exact h1.trans ⟨rfl, rfl⟩

/-- A place on a line that binds the name, with only signature lines before it. -/
def Found (names ls : List Text) (e : Cursor) : Prop :=
  ∃ before w r after, ls = before ++ (w ++ r) :: after ∧ (∀ m ∈ before, isSignature m) ∧
    Binds names (w ++ r) ∧ e.rest = r ++ following after

theorem not_found_nil {e : Cursor} : ¬ Found names [] e := by
  rintro ⟨before, w, r, after, h, -⟩
  simp at h

theorem found_cons {e : Cursor} : Found names (l :: ls) e ↔ (isSignature l ∧ Found names ls e) ∨
    (Binds names l ∧ ∃ w r, l = w ++ r ∧ e.rest = r ++ following ls) := by
  constructor
  · rintro ⟨before, w, r, after, hls, hsign, hbind, he⟩
    cases before with
    | nil =>
      obtain ⟨rfl, rfl⟩ := List.cons.inj hls
      exact Or.inr ⟨hbind, w, r, rfl, he⟩
    | cons m before =>
      obtain ⟨rfl, rfl⟩ := List.cons.inj hls
      refine Or.inl ⟨hsign l List.mem_cons_self, before, w, r, after, rfl, fun m hm => ?_, hbind, he⟩
      exact hsign m (List.mem_cons_of_mem _ hm)
  · rintro (⟨hs, before, w, r, after, rfl, hsign, hbind, he⟩ | ⟨hbind, w, r, rfl, he⟩)
    · exact ⟨l :: before, w, r, after, rfl, by simpa [hs] using hsign, hbind, he⟩
    · exact ⟨[], w, r, ls, rfl, by simp, hbind, he⟩

theorem exists_found_iff : (∃ e, Found names ls e) ↔ Leads names ls := by
  induction ls with
  | nil => simp [not_found_nil, Leads]
  | cons l ls ih =>
    simp only [found_cons, Leads, exists_or, exists_and_left, ih]
    constructor
    · rintro (h | ⟨h, -⟩)
      · exact Or.inr h
      · exact Or.inl h
    · rintro (h | h)
      · exact Or.inr ⟨h, ⟨none, l ++ following ls⟩, [], l, rfl, rfl⟩
      · exact Or.inl h

theorem finds_afterSignatures (hn : ∀ name ∈ names, Text.newline ∉ name) {fuel : Nat}
    (hls : ∀ l ∈ ls, Text.newline ∉ l) (hl : Text.newline ∉ l) (hb : StartsLine b)
    (hfuel : ls.length ≤ fuel) :
    Finds ((afterSignatures fuel ⟨b, l ++ following ls⟩).findSome? (bound? names))
      (Found names (l :: ls)) := by
  have here := finds_bound?_line hn hb (endsLine_following ls) hl
  induction ls generalizing l b fuel with
  | nil =>
    have hlist : afterSignatures fuel ⟨b, l ++ following []⟩ = [⟨b, l ++ following []⟩] := by
      cases fuel with
      | zero => rfl
      | succ fuel =>
        unfold afterSignatures
        split
        · next d hd => simpa using ((skip_signature hl d).1 hd).2
        · rfl
    rw [hlist, List.findSome?_singleton]
    exact here.congr fun e => by simp [found_cons, not_found_nil]
  | cons m ms ih =>
    obtain ⟨fuel, rfl⟩ : ∃ k, fuel = k + 1 := ⟨fuel - 1, by simp at hfuel; omega⟩
    have hm : Text.newline ∉ m := hls m List.mem_cons_self
    have hms : ∀ l ∈ ms, Text.newline ∉ l := fun l h => hls l (List.mem_cons_of_mem _ h)
    have hnext : StartsLine (some Text.newline) := fun x hx => (Option.some.inj hx).symm
    have hfuel : ms.length ≤ fuel := by simpa using hfuel
    have next := ih hms hm hnext hfuel
      (finds_bound?_line hn hnext (endsLine_following ms) hm)
    unfold afterSignatures
    split
    · next d hd =>
      obtain ⟨hs, m', ms', heq, rfl⟩ := (skip_signature hl d).1 hd
      obtain ⟨rfl, rfl⟩ := List.cons.inj heq
      rw [List.findSome?_append, List.findSome?_singleton]
      exact (next.or here).congr fun e => by simp [found_cons (l := l), hs]
    · next hd =>
      have hs : isSignature l = false := by
        by_contra hs
        cases hd.symm.trans ((skip_signature hl _).2 ⟨by simpa using hs, m, ms, rfl, rfl⟩)
      rw [List.findSome?_singleton]
      exact here.congr fun e => by simp [found_cons (l := l), hs]

theorem length_le_following (ls : List Text) : ls.length ≤ (following ls).length := by
  induction ls with
  | nil => exact Nat.zero_le _
  | cons l ls ih =>
    rw [following_cons, List.length_cons, List.length_cons, List.length_append]
    omega

theorem finds_block (hn : ∀ name ∈ names, Text.newline ∉ name) (hb : StartsLine b)
    (hls : ∀ m ∈ l :: ls, Text.newline ∉ m) :
    Finds ((afterSignatures (l ++ following ls).length ⟨b, l ++ following ls⟩).findSome? (bound? names))
      (Found names (l :: ls)) := by
  refine finds_afterSignatures hn (fun m hm => hls m (List.mem_cons_of_mem _ hm))
    (hls l List.mem_cons_self) hb ?_
  have := length_le_following ls
  rw [List.length_append]
  omega

theorem block?_eq_none (hn : ∀ name ∈ names, Text.newline ∉ name) (hb : StartsLine b)
    (hls : ∀ m ∈ l :: ls, Text.newline ∉ m) (h : ¬ Leads names (l :: ls)) :
    block? names ⟨b, l ++ following ls⟩ = none := by
  have hnone := (finds_block hn hb hls).eq_none fun e he => h (exists_found_iff.1 ⟨e, he⟩)
  rw [block?, Option.map_eq_none_iff]
  exact hnone

theorem Found.inside {block rest : List Text} (h : Paragraph block rest) {e : Cursor}
    (he : Found names (block ++ rest) e) : ∃ before w r after,
      block = before ++ (w ++ r) :: after ∧ e.rest = r ++ following (after ++ rest) := by
  obtain ⟨before, w, r, after, hls, hsign, hbind, hrest⟩ := he
  -- none of the lines up to the binding one is blank, the first line of `rest` is
  have hfilled : ∀ m ∈ before ++ [w ++ r], Text.isBlank m = false := by
    intro m hm
    rcases List.mem_append.1 hm with hm | hm
    · exact isBlank_of_isSignature (hsign m hm)
    · rw [List.mem_singleton.1 hm]
      exact hbind.isBlank
  have hls : (before ++ [w ++ r]) ++ after = block ++ rest := by simp [hls]
  rcases List.append_eq_append_iff.1 hls with ⟨a, rfl, rfl⟩ | ⟨a, ha, rfl⟩
  · exact ⟨before, w, r, a, by simp, hrest⟩
  · cases a with
    | nil => exact ⟨before, w, r, [], by simpa using ha.symm, by simpa using hrest⟩
    | cons m a =>
      have hm := hfilled m (by simp [ha])
      rw [h.stops m rfl] at hm
      cases hm

theorem block?_eq_some (hn : ∀ name ∈ names, Text.newline ∉ name) (hb : StartsLine b)
    {block rest : List Text} (hls : ∀ m ∈ l :: (block ++ rest), Text.newline ∉ m)
    (hp : Paragraph (l :: block) rest) (h : Leads names (l :: (block ++ rest))) :
    block? names ⟨b, l ++ following (block ++ rest)⟩ = some (l ++ following block).length := by
  obtain ⟨e, he, hfound⟩ := (finds_block hn hb hls).exists_eq_some (exists_found_iff.2 h)
  obtain ⟨before, w, r, after, hblock, hrest⟩ := Found.inside hp hfound
  have hmem : ∀ m ∈ (w ++ r) :: (after ++ rest), Text.newline ∉ m := by
    intro m hm
    refine hls m ?_
    rw [← List.cons_append, hblock]
    simp only [List.mem_append, List.mem_cons] at hm ⊢
    tauto
  have hafter : Paragraph after rest := ⟨fun m hm => hp.filled m (by simp [hblock, hm]), hp.stops⟩
  have hr : Text.newline ∉ r := fun hr => hmem _ List.mem_cons_self (List.mem_append_right _ hr)
  have htail := blockLength_line hr (fun m hm => hmem m (List.mem_cons_of_mem _ hm)) hafter
  have hlen : (following (l :: block)).length = (following (before ++ (w ++ r) :: after)).length := by
    rw [hblock]
  rw [block?, Option.map_eq_some_iff]
  refine ⟨e, he, ?_⟩
  simp only [following_cons, following_append, List.length_append, List.length_cons] at hlen ⊢
  rw [hrest, htail]
  simp only [following_append, List.length_append]
  omega

end Redraft.Source
