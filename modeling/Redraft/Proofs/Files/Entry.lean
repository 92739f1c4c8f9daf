import Mathlib.Tactic.SplitIfs
import Redraft.Files.Write
import Redraft.Proofs.Files.Walk
import Redraft.Proofs.Text.Utf8

/-!
The entry that a path names: its place in its directory, be it a file, a link or nothing. A file put
there is what the path leads to from then on, unless the way to the directory runs through the entry
itself. Then the entry was a link, and the path led to a directory or through too many links.
-/
namespace Redraft

theorem byteCount_append (s t : Text) : byteCount (s ++ t) = byteCount s + byteCount t := by
  simp only [byteCount, Utf8.encodeWith_append, List.length_append]

namespace Path

def Plain (p : Path) : Prop := dot ∉ p.names

theorem plain_ofText (t : Text) : (ofText t).Plain := by
  simp [Plain, ofText, namesOf, dot]

theorem names_eq {p : Path} {name : Text} (h : p.names.getLast? = some name) :
    p.names = p.parent.names ++ [name] := by
  obtain ⟨before, hb⟩ := List.getLast?_eq_some_iff.1 h
  rw [parent, hb, List.dropLast_concat]

end Path

namespace Files

variable {f g : Files} {p : Path} {l m dir : Location} {bytes : Bytes} {mode : Nat}

theorem locate_eq_ok {follow : Bool} : f.locate follow p = .ok l ↔
    byteCount p.toText ≤ longestPath ∧ f.tree.walk follow mostLinks (f.start p) p.names = .ok l := by
  rw [locate]
  split_ifs with h
  · simp only [false_iff, not_and]
    omega
  · simp [Nat.le_of_not_lt h]

theorem entry_eq_ok : f.entry p = .ok l ↔ ∃ dir name, p.names.getLast? = some name ∧
    f.locate true p.parent = .ok dir ∧ f.tree.isDir dir = true ∧ name ≠ dotDot ∧ l = dir ++ [name] := by
  rw [entry]
  cases hname : p.names.getLast? with
  | none => simp
  | some name =>
    cases hdir : f.locate true p.parent with
    | error e => simp [bind, Except.bind]
    | ok dir =>
      simp only [bind, Except.bind, Option.some.injEq, Except.ok.injEq, ↓existsAndEq, true_and]
      split_ifs with h1 h2
      · have hd : f.tree.isDir dir = false := by simpa using h1
        simp [hd]
      · simp [h2]
      · have hd : f.tree.isDir dir = true := by simpa using h1
        simp only [Except.ok.injEq, hd, ne_eq, h2, not_false_eq_true, true_and]
        exact eq_comm

theorem entry_ne_nil (h : f.entry p = .ok l) : l ≠ [] := by
  obtain ⟨dir, name, -, -, -, -, rfl⟩ := entry_eq_ok.1 h
  simp

/-- The entry of a path is no other one in a tree where a file was put. -/
theorem entry_of_filedAt (h : f.tree.FiledAt g.tree l) (hcwd : g.cwd = f.cwd)
    (he : g.entry p = .ok m) : f.entry p = .ok m := by
  obtain ⟨dir, name, hname, hloc, hdir, hdots, rfl⟩ := entry_eq_ok.1 he
  obtain ⟨hlen, hwalk⟩ := locate_eq_ok.1 hloc
  have hstart : g.start p.parent = f.start p.parent := by rw [start, start, hcwd]
  rw [hstart] at hwalk
  rw [h.isDir_eq] at hdir
  rcases h.walk_cases mostLinks (f.start p.parent) p.parent.names with ⟨hsame, -⟩ | ⟨hend, -⟩
  · rw [hsame] at hwalk
    exact entry_eq_ok.2 ⟨dir, name, hname, locate_eq_ok.2 ⟨hlen, hwalk⟩, hdir, hdots, rfl⟩
  · rw [hwalk] at hend
    rcases hend with hend | hend
    · rw [Except.ok.inj hend, h.noDir] at hdir
      cases hdir
    · cases hend

/-- A path that is short enough to be walked and ends in a name that a file can have. -/
structure Fits (p : Path) : Prop where
  plain : p.Plain
  path : byteCount p.toText ≤ longestPath
  name : byteCount p.name ≤ longestName

theorem walk_of_entry (h : f.entry p = .ok l) (hp : Fits p) :
    ∃ dir k, f.tree.isDir dir = true ∧ f.locate true p.parent = .ok dir ∧ l.dropLast = dir ∧
      f.tree.walk true mostLinks (f.start p) p.names =
        match f.tree.node? l with
        | none => .error .notFound
        | some (.link target) => match k with
          | 0 => .error .tooManyLinks
          | k + 1 => f.tree.walk true k (Tree.linkRoute dir target).1 (Tree.linkRoute dir target).2
        | some _ => .ok l := by
  obtain ⟨dir, name, hname, hloc, hdir, hdots, rfl⟩ := entry_eq_ok.1 h
  obtain ⟨-, hwalk⟩ := locate_eq_ok.1 hloc
  have hstart : f.start p.parent = f.start p := rfl
  have hlen : ¬longestName < byteCount name := by
    have := hp.name
    rw [Path.name, hname, Option.getD_some] at this
    omega
  have hdot : name ≠ dot := fun heq => hp.plain (heq ▸ List.mem_of_getLast? hname)
  rw [hstart] at hwalk
  rcases Tree.walk_append f.tree mostLinks (f.start p) p.parent.names [name] with
    ⟨e, k, he, happend⟩ | ⟨x, hx, -⟩
  · obtain rfl : dir = e := by
      rw [hwalk] at he
      exact Except.ok.inj he
    refine ⟨dir, k, hdir, hloc, List.dropLast_concat, ?_⟩
    rw [Path.names_eq hname, happend, Tree.walk_cons, if_neg (by simp [hdir]), if_neg hdot,
      if_neg hdots, if_neg hlen]
    cases f.tree.node? (dir ++ [name]) with
    | none => rfl
    | some n =>
      cases n with
      | file b m => exact Tree.walk_nil f.tree k _
      | dir m => exact Tree.walk_nil f.tree k _
      | link target =>
        cases k with
        | zero => rfl
        | succ k => simp only [List.append_nil]
  · rw [hx] at hwalk
    cases hwalk

theorem locate_of_fits (hp : Fits p) :
    f.locate true p = f.tree.walk true mostLinks (f.start p) p.names := by
  rw [locate, if_neg (Nat.not_lt.2 hp.path)]

/-- A path leads to a file that stands at its entry. -/
theorem stat_of_entry (h : f.entry p = .ok l) (hp : Fits p)
    (hn : f.tree.node? l = some (.file bytes mode)) : f.stat p = .ok (.file bytes mode) := by
  obtain ⟨dir, k, -, -, -, hwalk⟩ := walk_of_entry h hp
  rw [hn] at hwalk
  rw [stat, locate_of_fits hp, hwalk]
  simp only [hn]

/-- The permission bits of what a path leads to; those of a new file if it leads nowhere. -/
def modeAt (f : Files) (p : Path) : Nat :=
  match f.stat p with
  | .ok (.file _ mode) => mode
  | .ok (.dir mode) => mode
  | _ => Tree.freshMode

/-- Whether the way to the directory of a path runs through a location, so that the directory is not
found in a tree that has nothing there. -/
def RunsThrough (f : Files) (p : Path) (l : Location) : Prop :=
  locate ⟨f.tree.remove l, f.cwd⟩ true p.parent = .error .notFound

/-- A path that leads to a directory or through too many links. -/
def LeadsBack (f : Files) (p : Path) : Prop :=
  (∃ mode, f.stat p = .ok (.dir mode)) ∨ f.stat p = .error .tooManyLinks

/-- The two ways to the directory of an entry, in the tree before a file is put at the entry, in the
tree with it, and in one without anything there. -/
theorem way_cases (h : f.tree.FiledAt g.tree l) (hcwd : g.cwd = f.cwd) (he : f.entry p = .ok l) :
    (¬ f.RunsThrough p l ∧ g.entry p = .ok l) ∨
    f.RunsThrough p l ∧
      f.tree.Meets l (f.tree.walk true mostLinks (f.start p) p.parent.names) ∧
      (g.tree.walk true mostLinks (g.start p) p.parent.names = .ok l ∨
        g.tree.walk true mostLinks (g.start p) p.parent.names = .error .notDirectory) := by
  obtain ⟨dir, name, hname, hloc, hdir, hdots, hl⟩ := entry_eq_ok.1 he
  obtain ⟨hlen, hwalk⟩ := locate_eq_ok.1 hloc
  have hstart : g.start p = f.start p := by rw [start, start, hcwd]
  have hway : f.RunsThrough p l ↔
      (f.tree.remove l).walk true mostLinks (f.start p) p.parent.names = .error .notFound := by
    rw [RunsThrough, locate, if_neg (Nat.not_lt.2 hlen)]
    rfl
  rw [hstart, hway]
  rcases h.walk_cases mostLinks (f.start p) p.parent.names with ⟨hsame, hwithout⟩ | ⟨hend, hmeets, hwithout⟩
  · left
    have hfound : f.tree.walk true mostLinks (f.start p) p.parent.names = .ok dir := hwalk
    have hloc' : g.locate true p.parent = .ok dir :=
      locate_eq_ok.2 ⟨hlen, (congrArg (g.tree.walk true mostLinks · p.parent.names) hstart).trans
        (hsame.trans hfound)⟩
    refine ⟨by rw [hwithout, hfound]; simp, ?_⟩
    exact entry_eq_ok.2 ⟨dir, name, hname, hloc', by rw [h.isDir_eq, hdir], hdots, hl⟩
  · exact .inr ⟨hwithout, hmeets, hend⟩

/-- Only a link can be on the way to the directory that it stands in. -/
theorem isLink_of_meets (he : f.entry p = .ok l)
    (hmeets : f.tree.Meets l (f.tree.walk true mostLinks (f.start p) p.parent.names)) :
    ∃ target, f.tree.node? l = some (.link target) := by
  obtain ⟨dir, -, -, hloc, hdir, -, -⟩ := entry_eq_ok.1 he
  have hparent : f.tree.walk true mostLinks (f.start p) p.parent.names = .ok dir :=
    (locate_eq_ok.1 hloc).2
  rw [hparent, Tree.Meets] at hmeets
  cases hl : f.tree.node? l with
  | none =>
    rw [hl] at hmeets
    cases hmeets
  | some n =>
    rw [hl] at hmeets
    cases n with
    | link target => exact ⟨target, rfl⟩
    | dir m => exact absurd hmeets id
    | file b m =>
      obtain rfl : dir = l := by simpa using hmeets
      rw [Tree.isDir, hl] at hdir
      cases hdir

/-- When the way to the entry meets the link that is the entry, the path follows that link once more
at its end, and comes to a directory or to too many links. -/
theorem leadsBack_of_meets (he : f.entry p = .ok l) (hp : Fits p)
    (hmeets : f.tree.Meets l (f.tree.walk true mostLinks (f.start p) p.parent.names)) :
    f.LeadsBack p := by
  obtain ⟨target, hl⟩ := isLink_of_meets he hmeets
  obtain ⟨dir, k, hdir, hloc, hlast, hwalk⟩ := walk_of_entry he hp
  have hparent : f.tree.walk true mostLinks (f.start p) p.parent.names = .ok dir :=
    (locate_eq_ok.1 hloc).2
  rw [hl] at hwalk
  simp only [hparent, Tree.Meets, hl, hlast, reduceCtorEq, false_or] at hmeets
  obtain ⟨j, rest, hrest⟩ := hmeets
  rw [LeadsBack, stat, locate_of_fits hp, hwalk]
  rcases Tree.walk_append f.tree j (Tree.linkRoute dir target).1 (Tree.linkRoute dir target).2 rest
    with ⟨e, i, he, happend⟩ | ⟨x, -, happend⟩
  · rw [happend] at hrest
    have hedir : f.tree.isDir e = true := by
      cases rest with
      | nil =>
        rw [Tree.walk_nil] at hrest
        rw [← Except.ok.inj hrest, hdir]
      | cons name rest => exact Tree.isDir_of_walk_cons hrest.symm
    cases k with
    | zero => exact .inr rfl
    | succ k =>
      rcases Tree.walk_links he k with hk | hk
      · left
        obtain ⟨mode, hmode⟩ := Tree.isDir_iff.1 hedir
        exact ⟨mode, by simp only [hk, hmode]⟩
      · right
        simp only [hk]
  · rw [happend] at hrest
    cases hrest

/-- A path ends nowhere when the way to its entry ends at a file or at a name behind one. -/
theorem stat_of_parent_lost {name : Text} (hname : p.names.getLast? = some name) (hp : Fits p)
    (hdir : f.tree.isDir l = false)
    (h : f.tree.walk true mostLinks (f.start p) p.parent.names = .ok l ∨
      f.tree.walk true mostLinks (f.start p) p.parent.names = .error .notDirectory) :
    f.stat p = .error .notDirectory := by
  have hwalk : f.tree.walk true mostLinks (f.start p) p.names = .error .notDirectory := by
    rw [Path.names_eq hname]
    rcases Tree.walk_append f.tree mostLinks (f.start p) p.parent.names [name] with
      ⟨e, k, he, happend⟩ | ⟨x, hx, happend⟩
    · rw [he] at h
      obtain rfl : e = l := by simpa using h
      rw [happend, Tree.walk_of_not_isDir hdir, if_neg (by simp)]
    · rw [hx] at h
      obtain rfl : x = .notDirectory := by simpa using h
      exact happend
  rw [stat, locate_of_fits hp, hwalk]

/-- In a tree where a file was put at the entry of a path, the path leads to that file, unless its way
ran through the entry. -/
theorem stat_of_filedAt (h : f.tree.FiledAt g.tree l) (hcwd : g.cwd = f.cwd)
    (he : f.entry p = .ok l) (hp : Fits p) (hn : g.tree.node? l = some (.file bytes mode))
    (hway : ¬ f.RunsThrough p l) : g.stat p = .ok (.file bytes mode) := by
  rcases way_cases h hcwd he with ⟨-, he'⟩ | ⟨hthrough, -⟩
  · exact stat_of_entry he' hp hn
  · exact absurd hthrough hway

/-- Where the way to an entry ran through the entry, which was a link, the path led back, and with a
file there it ends nowhere. -/
theorem RunsThrough.filedAt (hway : f.RunsThrough p l) (h : f.tree.FiledAt g.tree l)
    (hcwd : g.cwd = f.cwd) (he : f.entry p = .ok l) (hp : Fits p) :
    (∃ target, f.tree.node? l = some (.link target)) ∧ f.LeadsBack p ∧
      g.stat p = .error .notDirectory := by
  obtain ⟨-, name, hname, -⟩ := entry_eq_ok.1 he
  rcases way_cases h hcwd he with ⟨hnot, -⟩ | ⟨-, hmeets, hend⟩
  · exact absurd hway hnot
  · exact ⟨isLink_of_meets he hmeets, leadsBack_of_meets he hp hmeets,
      stat_of_parent_lost hname hp (by rw [h.isDir_eq, h.noDir]) hend⟩

/-- A fresh file is where a path led nowhere, or the path leads where it led. -/
theorem locate_of_fresh (h : f.tree.FiledAt g.tree l) (hcwd : g.cwd = f.cwd)
    (hfree : f.tree.node? l = none) : g.locate true p = f.locate true p ∨
      (g.locate true p = .ok l ∨ g.locate true p = .error .notDirectory) ∧
        f.locate true p = .error .notFound := by
  have hstart : g.start p = f.start p := by rw [start, start, hcwd]
  rw [locate, locate, hstart]
  split_ifs
  · exact .inl rfl
  · rcases h.walk_cases mostLinks (f.start p) p.names with ⟨hsame, -⟩ | ⟨hend, hmeets, -⟩
    · exact .inl hsame
    · rw [Tree.Meets, hfree] at hmeets
      exact .inr ⟨hend, hmeets⟩

theorem stat_of_fresh {n : Node} (h : f.tree.FiledAt g.tree l) (hcwd : g.cwd = f.cwd)
    (hfree : f.tree.node? l = none) (hn : g.tree.node? l = some n) : g.stat p = f.stat p ∨
      f.stat p = .error .notFound ∧ (g.stat p = .ok n ∨ g.stat p = .error .notDirectory) := by
  rcases locate_of_fresh (p := p) h hcwd hfree with hsame | ⟨hend, hnone⟩
  · cases hm : f.locate true p with
    | error e =>
      left
      simp only [stat, hsame, hm]
    | ok m =>
      by_cases heq : m = l
      · right
        simp only [stat, hsame, hm, heq, hfree, hn, true_and, true_or]
      · left
        simp only [stat, hsame, hm, h.others m heq]
  · right
    refine ⟨by simp only [stat, hnone], ?_⟩
    rcases hend with hend | hend
    · left
      simp only [stat, hend, hn]
    · right
      simp only [stat, hend]

theorem modeAt_of_fresh (h : f.tree.FiledAt g.tree l) (hcwd : g.cwd = f.cwd)
    (hfree : f.tree.node? l = none) (hn : g.tree.node? l = some (.file bytes Tree.freshMode)) :
    g.modeAt p = f.modeAt p := by
  rw [modeAt, modeAt]
  rcases stat_of_fresh h hcwd hfree hn with hsame | ⟨hnone, hend | hend⟩
  · rw [hsame]
  · rw [hnone, hend]
  · rw [hnone, hend]

/-- With a fresh file it can still be told if something is at a path, and what was there still is. -/
theorem exists?_of_fresh (h : f.tree.FiledAt g.tree l) (hcwd : g.cwd = f.cwd)
    (hfree : f.tree.node? l = none) : g.exists? p = f.exists? p ∨
      f.exists? p = .ok false ∧ ∃ found, g.exists? p = .ok found := by
  obtain ⟨b, m, hn⟩ := h.isFile
  rw [exists?, exists?, test, test]
  split_ifs
  · exact .inl rfl
  · rcases stat_of_fresh h hcwd hfree hn with hsame | ⟨hnone, hend | hend⟩
    · rw [hsame]
      exact .inl rfl
    · rw [hnone, hend]
      exact .inr ⟨rfl, true, rfl⟩
    · rw [hnone, hend]
      exact .inr ⟨rfl, false, rfl⟩

/-- A fresh file does not take the place of an entry. -/
theorem entry_of_fresh (h : f.tree.FiledAt g.tree l) (hcwd : g.cwd = f.cwd)
    (hfree : f.tree.node? l = none) (he : f.entry p = .ok m) : g.entry p = .ok m := by
  obtain ⟨dir, name, hname, hloc, hdir, hdots, rfl⟩ := entry_eq_ok.1 he
  have hloc' : g.locate true p.parent = .ok dir := by
    rcases locate_of_fresh (p := p.parent) h hcwd hfree with hsame | ⟨-, hnone⟩
    · rw [hsame, hloc]
    · rw [hloc] at hnone
      cases hnone
  exact entry_eq_ok.2 ⟨dir, name, hname, hloc', by rw [h.isDir_eq, hdir], hdots, rfl⟩

end Files

end Redraft
