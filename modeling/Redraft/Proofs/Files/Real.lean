import Redraft.Files.Real
import Redraft.Proofs.Failure
import Redraft.Proofs.Files.Entry
import Redraft.Proofs.Path
import Redraft.Proofs.Text.Keyed

/-!
Real paths. Resolving a path to its end leaves no link on it, and a path without links is its own
real path. Only a link that leads to itself ends a resolution early, with the names behind it kept
as they were.
-/
namespace Redraft

/-- A name that something in a directory can have. -/
structure Ordinary (name : Text) : Prop where
  slash : Path.slash ∉ name
  ne_nil : name ≠ []
  ne_dot : name ≠ dot
  ne_dotDot : name ≠ dotDot

namespace Tree

variable {t : Tree} {follow : Bool} {links : Nat} {here : Location} {name : Text} {names : List Text}

end Tree

namespace Files

variable {f : Files} {p q : Path} {name t : Text} {names done : List Text}
  {seen : List (Path × Option Path)} {follow : Bool} {links room : Nat}

/-! What resolution leaves behind. -/

/-- A path that resolution has gone along without a link left on it. -/
inductive Cleared (f : Files) : Path → Prop
  | root : Cleared f ⟨.root, []⟩
  | climb (k : Nat) : Cleared f ⟨.relative, List.replicate k dotDot⟩
  | child {p : Path} {name : Text} (parent : Cleared f p) (ordinary : Ordinary name)
      (free : f.linkTarget? (p.child name) = none) : Cleared f (p.child name)

theorem above_child (h : name ≠ dotDot) : above (p.child name) = p := by
  simp [above, Path.child, Path.parent, h]

theorem Cleared.above (h : Cleared f p) : Cleared f (above p) := by
  cases h with
  | root => exact .root
  | climb k =>
    cases k with
    | zero => exact .climb 1
    | succ k =>
      have hclimb := Cleared.climb (f := f) (k + 2)
      rw [List.replicate_succ'] at hclimb
      simpa [Files.above, Path.child, List.getLast?_replicate] using hclimb
  | child parent ordinary free =>
    rw [above_child ordinary.ne_dotDot]
    exact parent

/-- A path that resolution comes to from another one: cleared, and below the root if that one is. -/
structure LeadsTo (f : Files) (p q : Path) : Prop where
  cleared : Cleared f q
  rooted : p.isAbsolute = true → q.isAbsolute = true

theorem LeadsTo.trans {q' : Path} (h : LeadsTo f p q) (h' : LeadsTo f q q') : LeadsTo f p q' :=
  ⟨h'.cleared, h'.rooted ∘ h.rooted⟩

/-- The resolutions of links that were met before. -/
def Settled (f : Files) (seen : List (Path × Option Path)) : Prop :=
  ∀ link known, (link, some known) ∈ seen → LeadsTo f link known

theorem Settled.open_link (h : Settled f seen) (link : Path) : Settled f ((link, none) :: seen) := by
  intro link' known hmem
  rcases List.mem_cons.1 hmem with heq | hmem
  · cases heq
  · exact h link' known hmem

theorem Settled.close_link {link : Path} (h : Settled f seen) (hlink : LeadsTo f link p) :
    Settled f ((link, some p) :: seen) := by
  intro link' known hmem
  rcases List.mem_cons.1 hmem with heq | hmem
  · cases heq
    exact hlink
  · exact h link' known hmem

/-- What is true of every resolution from a path on. -/
structure Clears (f : Files) (p : Path) (r : Resolution) : Prop where
  leadsTo : r.complete = true → LeadsTo f p r.path
  settled : Settled f r.seen
  noSlash : ∀ name ∈ r.path.names, Path.slash ∉ name

theorem Cleared.noSlash (h : Cleared f p) : ∀ name ∈ p.names, Path.slash ∉ name := by
  induction h with
  | root => simp
  | climb k =>
    intro name hname
    rw [List.eq_of_mem_replicate hname]
    decide
  | child parent ordinary free ih =>
    intro name hname
    rcases List.mem_append.1 hname with hname | hname
    · exact ih name hname
    · rw [List.mem_singleton.1 hname]
      exact ordinary.slash

theorem isAbsolute_above (h : p.isAbsolute = true) : (above p).isAbsolute = true := by
  rw [Files.above]
  split
  · rw [if_pos h]
    exact h
  · split_ifs
    · exact h
    · exact h

theorem clears_of_incomplete (hq : ∀ name ∈ q.names, Path.slash ∉ name)
    (hnames : ∀ name ∈ names, Path.slash ∉ name) (hseen : Settled f seen) :
    Clears f p ⟨⟨q.anchor, q.names ++ names⟩, false, seen⟩ :=
  ⟨Bool.false_ne_true.elim, hseen,
    fun name hname => (List.mem_append.1 hname).elim (hq name) (hnames name)⟩

/-- Adding names to a path on the way clears what it comes to, if resolving the targets of links
does. -/
theorem resolveNames_clears
    {inner : Path → Text → List (Path × Option Path) → Except Failure Resolution}
    (hinner : ∀ p t seen r, Cleared f p → Settled f seen → inner p t seen = .ok r → Clears f p r)
    (hnames : ∀ name ∈ names, Path.slash ∉ name) (hq : LeadsTo f p q) (hseen : Settled f seen)
    {r : Resolution} (h : resolveNames f inner q seen names = .ok r) : Clears f p r := by
  have hrest {name : Text} {rest : List Text} (h : ∀ n ∈ name :: rest, Path.slash ∉ n) :=
    (List.forall_mem_cons.1 h).2
  fun_induction resolveNames f inner q seen names with
  | case1 q seen =>
    cases h
    exact ⟨fun _ => hq, hseen, hq.cleared.noSlash⟩
  | case2 q seen name rest hskip ih => exact ih (hrest hnames) hq hseen h
  | case3 q seen rest hskip ih =>
    exact ih (hrest hnames) (hq.trans ⟨hq.cleared.above, isAbsolute_above⟩) hseen h
  | case4 => cases h
  | case5 q seen name rest hskip hup next hfault hfree ih =>
    -- the next name is no link
    have hordinary : Ordinary name := by
      simp only [Bool.or_eq_true, List.isEmpty_iff, decide_eq_true_eq, not_or] at hskip
      exact ⟨hnames name List.mem_cons_self, hskip.1, hskip.2, hup⟩
    exact ih (hrest hnames) (hq.trans ⟨.child hq.cleared hordinary hfree, id⟩) hseen h
  | case6 q seen name rest hskip hup next hfault target htarget known hknown ih =>
    -- a link that was met before: what it leads to is taken from there
    have hlink := hseen next known (Keyed.mem_of_lookup hknown)
    exact ih (hrest hnames) (hq.trans ⟨hlink.cleared, hlink.rooted⟩) hseen h
  | case7 q seen name rest hskip hup next hfault target htarget hopen =>
    -- a link that leads to itself
    cases h
    refine clears_of_incomplete (fun n hn => ?_) (hrest hnames) hseen
    rcases List.mem_append.1 hn with hn | hn
    · exact hq.cleared.noSlash n hn
    · exact List.mem_singleton.1 hn ▸ hnames name List.mem_cons_self
  | case8 => cases h
  | case9 q seen name rest hskip hup next hfault target htarget hnew r' hr' hcomplete ih =>
    have hclears := hinner _ _ _ _ hq.cleared (hseen.open_link next) hr'
    have hlink := hclears.leadsTo hcomplete
    have hnext : LeadsTo f next r'.path := ⟨hlink.cleared, hlink.rooted⟩
    exact ih (hrest hnames) (hq.trans hlink) (hclears.settled.close_link hnext) h
  | case10 q seen name rest hskip hup next hfault target htarget hnew r' hr' hcut =>
    have hclears := hinner _ _ _ _ hq.cleared (hseen.open_link next) hr'
    cases h
    exact clears_of_incomplete hclears.noSlash (hrest hnames) hclears.settled

theorem resolveText_clears (room : Nat) (hp : Cleared f p) (hseen : Settled f seen) {r : Resolution}
    (h : f.resolveText room p t seen = .ok r) : Clears f p r := by
  induction room generalizing p t seen r with
  | zero => cases h
  | succ room ih =>
    refine resolveNames_clears (fun _ _ _ _ hp hseen h => ih hp hseen h)
      (Text.sep_notMem_split t) ?_ hseen h
    split_ifs
    · exact ⟨.root, fun _ => rfl⟩
    · exact ⟨hp, id⟩

/-- Resolution comes to the end of a path, with no link on the way that leads to itself. -/
def Resolves (room : Nat) (f : Files) (p q : Path) : Prop :=
  ∃ seen, f.resolveText room ⟨.relative, []⟩ p.toText [] = .ok ⟨q, true, seen⟩

theorem Resolves.cleared (h : f.Resolves room p q) : Cleared f q := by
  obtain ⟨seen, h⟩ := h
  exact ((resolveText_clears _ (.climb 0) (by simp [Settled]) h).leadsTo rfl).cleared

theorem exists_eq_succ_of_resolveText {r : Resolution} (h : f.resolveText room p t seen = .ok r) :
    ∃ k, room = k + 1 := by
  cases room with
  | zero => cases h
  | succ k => exact ⟨k, rfl⟩

theorem head?_toText (h : p.isAbsolute = true) : p.toText.head? = some Path.slash := by
  obtain ⟨anchor, names⟩ := p
  cases anchor with
  | relative => cases h
  | root => rfl
  | doubleRoot => rfl

theorem Resolves.rooted (h : f.Resolves room p q) (hp : p.isAbsolute = true) :
    q.isAbsolute = true := by
  obtain ⟨seen, h⟩ := h
  obtain ⟨room, rfl⟩ := exists_eq_succ_of_resolveText h
  rw [resolveText, if_pos (head?_toText hp)] at h
  have hclears := resolveNames_clears (fun _ _ _ _ hp hseen h => resolveText_clears _ hp hseen h)
    (Text.sep_notMem_split p.toText) (p := ⟨.root, []⟩) ⟨.root, id⟩ (by simp [Settled]) h
  exact (hclears.leadsTo rfl).rooted rfl

/-! Paths by their form. -/

/-- The current directory is one, and so is every directory above it. -/
structure Standing (f : Files) : Prop where
  ordinary : ∀ name ∈ f.cwd, Ordinary name ∧ byteCount name ≤ longestName
  isDir : ∀ l, l <+: f.cwd → f.tree.isDir l = true

theorem Standing.take (hf : f.Standing) (n : Nat) : Standing ⟨f.tree, f.cwd.take n⟩ :=
  ⟨fun name hname => hf.ordinary name (List.mem_of_mem_take hname),
    fun l hl => hf.isDir l (hl.trans (List.take_prefix n f.cwd))⟩

end Files

end Redraft
