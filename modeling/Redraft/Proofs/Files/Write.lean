import Redraft.Proofs.Failure
import Redraft.Proofs.Files.Entry
import Redraft.Proofs.Files.Tree

/-!
A write is all or nothing, whatever the file system refuses of it. When it fails the tree is the one
before it; when it succeeds there is a file with the new content at the entry of the path, and all
else is as it was.
-/
namespace Redraft

namespace Tree

variable {t t' : Tree} {l dir : Location} {name : Text} {bytes : Bytes} {mode : Nat}

theorem createTemporary_eq_ok : t.createTemporary dir name = .ok (t', l) ↔
    t.isDir dir = true ∧ byteCount (t.freshName dir name) ≤ longestName ∧
      l = dir ++ [t.freshName dir name] ∧ t' = t.put l (.file [] freshMode) := by
  unfold createTemporary
  dsimp only
  split_ifs with hdir hlong
  · simp only [Bool.not_eq_true'] at hdir
    simp [hdir]
  · simp only [false_iff]
    omega
  · simp only [Bool.not_eq_true', Bool.not_eq_false] at hdir
    simp only [Except.ok.injEq, Prod.mk.injEq, hdir, true_and]
    constructor
    · rintro ⟨rfl, rfl⟩
      exact ⟨by omega, rfl, rfl⟩
    · rintro ⟨-, rfl, rfl⟩
      exact ⟨rfl, rfl⟩

theorem byteCount_freshName (t : Tree) (dir : Location) (name : Text) :
    byteCount name ≤ byteCount (t.freshName dir name) := by
  unfold freshName temporaryName
  simp only [byteCount_append]
  omega

theorem move_eq_ok {n : Node} {target : Location} (hn : t.node? l = some n)
    (h : t.move l target = .ok t') :
    t.isDir target = false ∧ t' = (t.remove l).put target n := by
  simp only [move, hn] at h
  split_ifs at h with hdir
  exact ⟨by simpa using hdir, (Except.ok.inj h).symm⟩

theorem put_put_of_free {n n' : Node} (h : l ≠ []) (hf : t.node? l = none) :
    (t.put l n).put l n' = t.put l n' := by
  rw [put, remove_put_of_free h hf, put, remove_of_free h hf]

theorem isDir_of_free (h : t.node? l = none) : t.isDir l = false := by
  rw [isDir, h]

theorem filedAt_put (h : l ≠ []) (hfree : t.node? l = none) (bytes : Bytes) (mode : Nat) :
    t.FiledAt (t.put l (.file bytes mode)) l where
  isFile := ⟨bytes, mode, node?_put_of_ne_nil h⟩
  noDir := isDir_of_free hfree
  others := fun _ hm => node?_put_ne t (.file bytes mode) hm

theorem FiledAt.put (h : t.FiledAt t' l) (hne : l ≠ []) (bytes : Bytes) (mode : Nat) :
    t.FiledAt (t'.put l (.file bytes mode)) l where
  isFile := ⟨bytes, mode, node?_put_of_ne_nil hne⟩
  noDir := h.noDir
  others := fun m hm => by rw [node?_put_ne t' _ hm, h.others m hm]

end Tree

namespace Files

variable {f : Files} {p : Path} {l temporary : Location} {content : Text} {bytes : Bytes} {t : Tree}

theorem nameable_eq_ok {x : Unit} : nameable p = .ok x ↔ nameFault? p.toText = none := by
  rw [nameable]
  cases nameFault? p.toText <;> simp

/-- Permission bits are found for paths that are short enough, and are those of the path. -/
theorem modeFor_eq_ok {mode : Nat} (hn : nameFault? p.toText = none) (h : f.modeFor p = .ok mode) :
    byteCount p.toText ≤ longestPath ∧ mode = f.modeAt p := by
  simp only [modeFor, exists?, test, hn, Option.isSome_none, Bool.false_eq_true, if_false] at h
  constructor
  · by_contra hlong
    have hstat : f.stat p = .error .nameTooLong := by
      rw [stat, locate, if_pos (Nat.lt_of_not_le hlong)]
    rw [hstat] at h
    cases h
  · rw [modeAt]
    cases hstat : f.stat p with
    | ok n =>
      rw [hstat] at h
      cases n <;> exact (Except.ok.inj h).symm
    | error e =>
      rw [hstat] at h
      cases e <;> cases h <;> rfl

/-- What a write that succeeds has made of the files. -/
structure Wrote (f : Files) (p : Path) (content : Text) (l : Location) (bytes : Bytes) (t : Tree) :
    Prop where
  encoded : Utf8.encode content = .ok bytes
  entry : f.entry p = .ok l
  nameable : nameFault? p.toText = none
  path : byteCount p.toText ≤ longestPath
  name : byteCount p.name ≤ longestName
  noDir : f.tree.isDir l = false
  node : t.node? l = some (.file bytes (f.modeAt p))
  others : ∀ m, m ≠ l → t.node? m = f.tree.node? m

theorem Wrote.filedAt (h : f.Wrote p content l bytes t) : f.tree.FiledAt t l :=
  ⟨⟨bytes, f.modeAt p, h.node⟩, h.noDir, h.others⟩

theorem permit_eq_ok {x : Option FileError} {y : Unit} : permit x = .ok y ↔ x = none := by
  cases x <;> simp [permit]

theorem modeFor_of_settleMode {r : Refusals} {mode : Nat} (h : settleMode r f p = .ok mode) :
    f.modeFor p = .ok mode := by
  obtain ⟨_, -, h⟩ := bind_eq_ok.1 h
  obtain ⟨mode', hmode, h⟩ := bind_eq_ok.1 h
  obtain ⟨found, -, h⟩ := bind_eq_ok.1 h
  cases found with
  | false => exact Except.ok.inj h ▸ hmode
  | true =>
    obtain ⟨_, -, h⟩ := bind_eq_ok.1 h
    exact Except.ok.inj h ▸ hmode

theorem takePlace_eq_ok {r : Refusals} : takePlace r f temporary p = .ok t ↔
    r.step .replace = none ∧ nameFault? p.toText = none ∧
      ∃ l, f.entry p = .ok l ∧ f.tree.move temporary l = .ok t := by
  constructor
  · intro h
    obtain ⟨_, hallowed, h⟩ := bind_eq_ok.1 h
    obtain ⟨_, hname, h⟩ := bind_eq_ok.1 h
    obtain ⟨l, hentry, h⟩ := bind_eq_ok.1 h
    exact ⟨permit_eq_ok.1 hallowed, nameable_eq_ok.1 hname, l, mapError_eq_ok.1 hentry,
      mapError_eq_ok.1 h⟩
  · rintro ⟨hallowed, hname, l, hentry, hmove⟩
    exact bind_eq_ok.2 ⟨(), permit_eq_ok.2 hallowed, bind_eq_ok.2 ⟨(), nameable_eq_ok.2 hname,
      bind_eq_ok.2 ⟨l, mapError_eq_ok.2 hentry, mapError_eq_ok.2 hmove⟩⟩⟩

/-- Where a write stops, it has changed the temporary file at most. -/
theorem fillAndMove_cases (r : Refusals) (f : Files) (temporary : Location) (p : Path)
    (content : Text) :
    (∃ e t, fillAndMove r f temporary p content = (.error e, t) ∧
      (t = f.tree ∨ ∃ n, t = f.tree.put temporary n)) ∨
    ∃ bytes mode t, fillAndMove r f temporary p content = (.ok (), t) ∧
      Utf8.encode content = .ok bytes ∧ r.step .fill = none ∧ settleMode r f p = .ok mode ∧
      takePlace r ⟨f.tree.put temporary (.file bytes mode), f.cwd⟩ temporary p = .ok t := by
  unfold fillAndMove
  cases hencode : Utf8.encode content with
  | error fault => exact .inl ⟨_, _, rfl, .inl rfl⟩
  | ok bytes =>
    cases hfill : r.step .fill with
    | some e => exact .inl ⟨_, _, rfl, .inr ⟨_, rfl⟩⟩
    | none =>
      dsimp only
      cases hmode : settleMode r f p with
      | error e => exact .inl ⟨_, _, rfl, .inr ⟨_, rfl⟩⟩
      | ok mode =>
        dsimp only
        cases hmove : takePlace r ⟨f.tree.put temporary (.file bytes mode), f.cwd⟩ temporary p with
        | error e => exact .inl ⟨_, _, rfl, .inr ⟨_, rfl⟩⟩
        | ok t => exact .inr ⟨bytes, mode, t, rfl, rfl, rfl, rfl, hmove⟩

theorem wrote_of_takePlace {r : Refusals} {dir : Location} {name : Text} {mode : Nat}
    (hfree : f.tree.node? (dir ++ [name]) = none) (hlonger : p.name.length < name.length)
    (hname : byteCount p.name ≤ longestName) (hencode : Utf8.encode content = .ok bytes)
    (hmode : modeFor ⟨f.tree.put (dir ++ [name]) (.file [] Tree.freshMode), f.cwd⟩ p = .ok mode)
    (h : takePlace r ⟨(f.tree.put (dir ++ [name]) (.file [] Tree.freshMode)).put (dir ++ [name])
      (.file bytes mode), f.cwd⟩ (dir ++ [name]) p = .ok t) : ∃ l, f.Wrote p content l bytes t := by
  have hne := Tree.append_singleton_ne_nil dir name
  have hfresh := Tree.filedAt_put hne hfree [] Tree.freshMode
  obtain ⟨-, hnameable, l, hentry, h⟩ := takePlace_eq_ok.1 h
  obtain ⟨hpath, hmode⟩ := modeFor_eq_ok hnameable hmode
  have hsame : modeAt ⟨f.tree.put (dir ++ [name]) (.file [] Tree.freshMode), f.cwd⟩ p = f.modeAt p :=
    modeAt_of_fresh hfresh rfl hfree (Tree.node?_put_of_ne_nil hne)
  obtain rfl := hmode.trans hsame
  have hfilled := hfresh.put hne bytes (f.modeAt p)
  have hentry' : f.entry p = .ok l :=
    entry_of_filedAt (g := ⟨_, f.cwd⟩) hfilled rfl hentry
  obtain ⟨hdir, rfl⟩ := Tree.move_eq_ok (Tree.node?_put_of_ne_nil hne) h
  have hl : l ≠ dir ++ [name] := by
    rintro rfl
    obtain ⟨dir', name', hlast, -, -, -, heq⟩ := entry_eq_ok.1 hentry'
    obtain rfl : name = name' := (List.append_inj_right' heq rfl |> List.singleton_inj.1)
    rw [Path.name, hlast, Option.getD_some] at hlonger
    omega
  refine ⟨l, hencode, hentry', hnameable, hpath, hname, ?_, ?_, ?_⟩
  · rw [← hfilled.isDir_eq, hdir]
  · exact Tree.node?_put_of_ne_nil (entry_ne_nil hentry')
  · intro m hm
    rw [Tree.node?_put_ne _ _ hm]
    by_cases heq : m = dir ++ [name]
    · rw [heq, Tree.node?_remove_self hne, hfree]
    · rw [Tree.node?_remove_ne _ heq, hfilled.others m heq]

/-- A write that succeeds has made a temporary file in the directory of the path, filled it, and moved
it to the path. -/
theorem writeAtomicUnless_eq_ok {r : Refusals} : f.writeAtomicUnless r p content = (.ok (), t) ↔
    nameFault? ((f.absolute p.parent).child p.name).toText = none ∧ r.step .create = none ∧
      ∃ dir, f.locate true (f.absolute p.parent) = .ok dir ∧ f.tree.isDir dir = true ∧
        byteCount (f.tree.freshName dir p.name) ≤ longestName ∧
        fillAndMove r ⟨f.tree.put (dir ++ [f.tree.freshName dir p.name]) (.file [] Tree.freshMode),
          f.cwd⟩ (dir ++ [f.tree.freshName dir p.name]) p content = (.ok (), t) := by
  constructor
  · intro h
    unfold writeAtomicUnless at h
    dsimp only at h
    split at h
    · cases h
    · next hplace =>
      split at h
      · cases h
      · next t' temporary hmade =>
        obtain ⟨_, hallowed, hmade⟩ := bind_eq_ok.1 hmade
        obtain ⟨dir, hloc, hmade⟩ := bind_eq_ok.1 (mapError_eq_ok.1 hmade)
        obtain ⟨hdir, hlong, rfl, rfl⟩ := Tree.createTemporary_eq_ok.1 hmade
        refine ⟨hplace, permit_eq_ok.1 hallowed, dir, hloc, hdir, hlong, ?_⟩
        split at h
        · next hfilled => rw [hfilled, h]
        · cases h
  · rintro ⟨hplace, hallowed, dir, hloc, hdir, hlong, hfilled⟩
    have hmade : (do
        permit (r.step .create)
        (do f.tree.createTemporary (← f.locate true (f.absolute p.parent)) p.name).mapError
          Failure.write) = .ok (f.tree.put (dir ++ [f.tree.freshName dir p.name])
            (.file [] Tree.freshMode), dir ++ [f.tree.freshName dir p.name]) :=
      bind_eq_ok.2 ⟨(), permit_eq_ok.2 hallowed, mapError_eq_ok.2 (bind_eq_ok.2 ⟨dir, hloc,
        Tree.createTemporary_eq_ok.2 ⟨hdir, hlong, rfl, rfl⟩⟩)⟩
    unfold writeAtomicUnless
    dsimp only
    rw [hplace]
    dsimp only
    rw [hmade]
    dsimp only
    rw [hfilled]

/-- A write that fails leaves the tree as it was, whatever stopped it. -/
theorem writeAtomicUnless_cases (r : Refusals) (f : Files) (p : Path) (content : Text) :
    (∃ e, f.writeAtomicUnless r p content = (.error e, f.tree)) ∨
    (∃ l bytes t, f.writeAtomicUnless r p content = (.ok (), t) ∧ f.Wrote p content l bytes t) := by
  unfold writeAtomicUnless
  dsimp only
  cases nameFault? ((f.absolute p.parent).child p.name).toText with
  | some fault => exact .inl ⟨fault, rfl⟩
  | none =>
    cases hmade : (do
        permit (r.step .create)
        (do f.tree.createTemporary (← f.locate true (f.absolute p.parent)) p.name).mapError
          Failure.write) with
    | error e => exact .inl ⟨e, rfl⟩
    | ok made =>
      obtain ⟨t, temporary⟩ := made
      obtain ⟨_, -, hmade⟩ := bind_eq_ok.1 hmade
      obtain ⟨dir, -, hmade⟩ := bind_eq_ok.1 (mapError_eq_ok.1 hmade)
      obtain ⟨-, hlong, rfl, rfl⟩ := Tree.createTemporary_eq_ok.1 hmade
      have hne := Tree.append_singleton_ne_nil dir (f.tree.freshName dir p.name)
      have hfree := Tree.node?_freshName f.tree dir p.name
      dsimp only
      rcases fillAndMove_cases r
          ⟨f.tree.put (dir ++ [f.tree.freshName dir p.name]) (.file [] Tree.freshMode), f.cwd⟩
          (dir ++ [f.tree.freshName dir p.name]) p content with
        ⟨e, t, heq, ht⟩ | ⟨bytes, mode, t, heq, hencode, -, hmode, hmoved⟩
      · rw [heq]
        refine .inl ⟨e, Prod.ext rfl ?_⟩
        rcases ht with rfl | ⟨n, rfl⟩
        · exact Tree.remove_put_of_free hne hfree
        · dsimp only
          rw [Tree.put_put_of_free hne hfree, Tree.remove_put_of_free hne hfree]
      · rw [heq]
        obtain ⟨l, hwrote⟩ := wrote_of_takePlace hfree (Tree.length_freshName f.tree dir p.name)
          (Nat.le_trans (Tree.byteCount_freshName f.tree dir p.name) hlong) hencode
          (modeFor_of_settleMode hmode) hmoved
        exact .inr ⟨l, bytes, t, rfl, hwrote⟩

theorem exists_wrote {r : Refusals} (h : f.writeAtomicUnless r p content = (.ok (), t)) :
    ∃ l bytes, f.Wrote p content l bytes t := by
  rcases writeAtomicUnless_cases r f p content with ⟨e, he⟩ | ⟨l, bytes, t', heq, hwrote⟩
  · cases he.symm.trans h
  · obtain rfl : t' = t := congrArg Prod.snd (heq.symm.trans h)
    exact ⟨l, bytes, hwrote⟩

/-! A write that succeeds although parts of it may be refused is the write where nothing is. -/

theorem settleMode_unrefused {r : Refusals} {mode : Nat} (h : settleMode r f p = .ok mode) :
    settleMode {} f p = .ok mode := by
  obtain ⟨_, -, h⟩ := bind_eq_ok.1 h
  obtain ⟨mode', hmode, h⟩ := bind_eq_ok.1 h
  obtain ⟨found, hfound, h⟩ := bind_eq_ok.1 h
  refine bind_eq_ok.2 ⟨(), rfl, bind_eq_ok.2 ⟨mode', hmode, bind_eq_ok.2 ⟨found, hfound, ?_⟩⟩⟩
  cases found with
  | false => exact h
  | true =>
    obtain ⟨_, -, h⟩ := bind_eq_ok.1 h
    exact h

theorem fillAndMove_unrefused {r : Refusals}
    (h : fillAndMove r f temporary p content = (.ok (), t)) :
    fillAndMove {} f temporary p content = (.ok (), t) := by
  rcases fillAndMove_cases r f temporary p content with
    ⟨e, t', he, -⟩ | ⟨bytes, mode, t', heq, hencode, -, hmode, hmoved⟩
  · cases he.symm.trans h
  · obtain rfl : t' = t := congrArg Prod.snd (heq.symm.trans h)
    have hmoved' := (takePlace_eq_ok (r := {})).2 ⟨rfl, (takePlace_eq_ok.1 hmoved).2⟩
    simp only [fillAndMove, hencode, settleMode_unrefused hmode, hmoved']

theorem writeAtomic_of_writeAtomicUnless {r : Refusals}
    (h : f.writeAtomicUnless r p content = (.ok (), t)) :
    f.writeAtomic p content = (.ok (), t) := by
  obtain ⟨hplace, -, dir, hloc, hdir, hlong, hfilled⟩ := writeAtomicUnless_eq_ok.1 h
  exact writeAtomicUnless_eq_ok.2
    ⟨hplace, rfl, dir, hloc, hdir, hlong, fillAndMove_unrefused hfilled⟩

namespace Wrote

variable {g : Files} {earlier : Text} {m : Location} {bytes' : Bytes}

theorem fits (h : f.Wrote p content l bytes t) (hp : p.Plain) : Fits p := ⟨hp, h.path, h.name⟩

theorem entry_eq (h : f.Wrote p earlier l bytes' g.tree) (hcwd : g.cwd = f.cwd)
    (h' : g.Wrote p content m bytes t) : m = l := by
  have hm := entry_of_filedAt h.filedAt hcwd h'.entry
  rw [h.entry] at hm
  exact (Except.ok.inj hm).symm

theorem trans (hp : p.Plain) (h : f.Wrote p earlier l bytes' g.tree) (hcwd : g.cwd = f.cwd)
    (h' : g.Wrote p content m bytes t) : f.Wrote p content l bytes t := by
  obtain rfl := h.entry_eq hcwd h'
  have hmode : g.modeAt p = f.modeAt p := by
    rw [modeAt, stat_of_entry h'.entry (h.fits hp) h.node]
  refine ⟨h'.encoded, h.entry, h.nameable, h.path, h.name, h.noDir, ?_, ?_⟩
  · rw [h'.node, hmode]
  · intro k hk
    rw [h'.others k hk, h.others k hk]

theorem stat (hp : p.Plain) (h : f.Wrote p content l bytes g.tree) (hcwd : g.cwd = f.cwd)
    (hway : ¬ f.RunsThrough p l) : g.stat p = .ok (.file bytes (f.modeAt p)) :=
  stat_of_filedAt h.filedAt hcwd h.entry (h.fits hp) h.node hway

/-- Where its way ran through the entry, the path led back before and ends nowhere now. -/
theorem stat_of_runsThrough (hp : p.Plain) (h : f.Wrote p content l bytes g.tree)
    (hcwd : g.cwd = f.cwd) (hway : f.RunsThrough p l) :
    (∃ target, f.tree.node? l = some (.link target)) ∧ f.LeadsBack p ∧
      g.stat p = .error .notDirectory :=
  hway.filedAt h.filedAt hcwd h.entry (h.fits hp)

end Wrote

end Files

end Redraft
