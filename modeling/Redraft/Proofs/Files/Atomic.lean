import Redraft.Proofs.Files.Write

/-!
Atomic writes on a file system that may refuse any step. Which writes succeed is said on the tree
before them. A write that succeeds is read back at its path, but for one kind of path: a link whose
directory is reached through the link itself.
-/
namespace Redraft.Files

variable {f g : Files} {p : Path} {content : Text} {l temporary : Location} {n : Node}
  {r : Refusals}

/-- What a write needs of the tree: the path and the place of its temporary file can be names, the
directory is there and has room for the name of the temporary file, the content can be encoded, it
can be told what the path leads to, and the entry of the path is no directory. -/
structure Admits (f : Files) (p : Path) (content : Text) : Prop where
  path : nameFault? p.toText = none
  place : nameFault? ((f.absolute p.parent).child p.name).toText = none
  directory : ∃ dir, f.locate true (f.absolute p.parent) = .ok dir ∧ f.tree.isDir dir = true ∧
    byteCount (f.tree.freshName dir p.name) ≤ longestName
  encoded : ∃ bytes, Utf8.encode content = .ok bytes
  known : ∃ found, f.exists? p = .ok found
  entry : ∃ l, f.entry p = .ok l ∧ f.tree.isDir l = false

theorem modeFor_of_exists? {found : Bool} (h : f.exists? p = .ok found) :
    ∃ mode, f.modeFor p = .ok mode := by
  rw [modeFor, h]
  cases found with
  | false => exact ⟨Tree.freshMode, rfl⟩
  | true =>
    cases f.stat p with
    | error e => exact ⟨Tree.freshMode, rfl⟩
    | ok n => cases n <;> exact ⟨_, rfl⟩

/-- The permission bits are settled if it can be told whether something is there, and if so, setting
them is not refused. -/
theorem exists_settleMode : (∃ mode, settleMode r f p = .ok mode) ↔
    r.step .inspect = none ∧ ∃ found, f.exists? p = .ok found ∧
      (found = true → r.step .setMode = none) := by
  constructor
  · rintro ⟨mode, h⟩
    obtain ⟨_, hinspect, h⟩ := bind_eq_ok.1 h
    obtain ⟨_, -, h⟩ := bind_eq_ok.1 h
    obtain ⟨found, hfound, h⟩ := bind_eq_ok.1 h
    refine ⟨permit_eq_ok.1 hinspect, found, hfound, ?_⟩
    rintro rfl
    obtain ⟨_, hset, -⟩ := bind_eq_ok.1 h
    exact permit_eq_ok.1 hset
  · rintro ⟨hinspect, found, hfound, hset⟩
    obtain ⟨mode, hmode⟩ := modeFor_of_exists? hfound
    refine ⟨mode, bind_eq_ok.2 ⟨(), permit_eq_ok.2 hinspect, bind_eq_ok.2 ⟨mode, hmode,
      bind_eq_ok.2 ⟨found, hfound, ?_⟩⟩⟩⟩
    cases found with
    | false => rfl
    | true => exact bind_eq_ok.2 ⟨(), permit_eq_ok.2 (hset rfl), rfl⟩

theorem exists_takePlace (hfresh : f.tree.FiledAt g.tree temporary) (hcwd : g.cwd = f.cwd)
    (hfree : f.tree.node? temporary = none) (hn : g.tree.node? temporary = some n) :
    (∃ t, takePlace r g temporary p = .ok t) ↔ r.step .replace = none ∧
      nameFault? p.toText = none ∧ ∃ l, f.entry p = .ok l ∧ f.tree.isDir l = false := by
  constructor
  · rintro ⟨t, h⟩
    obtain ⟨hallowed, hname, l, hentry, hmove⟩ := takePlace_eq_ok.1 h
    have hdir := (Tree.move_eq_ok hn hmove).1
    rw [hfresh.isDir_eq] at hdir
    exact ⟨hallowed, hname, l, entry_of_filedAt hfresh hcwd hentry, hdir⟩
  · rintro ⟨hallowed, hname, l, hentry, hdir⟩
    have hmove : g.tree.move temporary l = .ok ((g.tree.remove temporary).put l n) := by
      rw [Tree.move, hn]
      dsimp only
      rw [if_neg (by rw [hfresh.isDir_eq, hdir]; exact Bool.false_ne_true)]
    exact ⟨_, takePlace_eq_ok.2 ⟨hallowed, hname, l, entry_of_fresh hfresh hcwd hfree hentry, hmove⟩⟩

theorem fillAndMove_ok_iff : (fillAndMove r f temporary p content).1 = .ok () ↔
    ∃ bytes, Utf8.encode content = .ok bytes ∧ r.step .fill = none ∧
      ∃ mode, settleMode r f p = .ok mode ∧
        ∃ t, takePlace r ⟨f.tree.put temporary (.file bytes mode), f.cwd⟩ temporary p = .ok t := by
  constructor
  · intro h
    rcases fillAndMove_cases r f temporary p content with
      ⟨e, t, heq, -⟩ | ⟨bytes, mode, t, -, hencode, hfill, hmode, hmove⟩
    · rw [heq] at h
      cases h
    · exact ⟨bytes, hencode, hfill, mode, hmode, t, hmove⟩
  · rintro ⟨bytes, hencode, hfill, mode, hmode, t, hmove⟩
    simp only [fillAndMove, hencode, hfill, hmode, hmove]

theorem admits_of_fillAndMove (hfresh : f.tree.FiledAt g.tree temporary) (hcwd : g.cwd = f.cwd)
    (hfree : f.tree.node? temporary = none) (hne : temporary ≠ [])
    (h : (fillAndMove r g temporary p content).1 = .ok ()) :
    nameFault? p.toText = none ∧ (∃ bytes, Utf8.encode content = .ok bytes) ∧
      (∃ found, f.exists? p = .ok found) ∧ (∃ l, f.entry p = .ok l ∧ f.tree.isDir l = false) ∧
      ∀ step e, step ≠ .create → r.step step = some e → step = .setMode ∧ f.exists? p = .ok false := by
  obtain ⟨bytes, hencode, hfill, mode, hmode, ht⟩ := fillAndMove_ok_iff.1 h
  obtain ⟨hreplace, hname, hentry⟩ := (exists_takePlace (hfresh.put hne bytes mode)
    (g := ⟨g.tree.put temporary (.file bytes mode), g.cwd⟩) hcwd hfree
    (Tree.node?_put_of_ne_nil hne)).1 ht
  obtain ⟨hinspect, found, hfound, hset⟩ := exists_settleMode.1 ⟨mode, hmode⟩
  have hbefore : ∃ before, f.exists? p = .ok before ∧ (before = true → found = true) := by
    rcases exists?_of_fresh hfresh hcwd hfree with hsame | ⟨hfalse, -⟩
    · exact ⟨found, hsame ▸ hfound, id⟩
    · exact ⟨false, hfalse, by simp⟩
  obtain ⟨before, hbefore, hkept⟩ := hbefore
  refine ⟨hname, ⟨bytes, hencode⟩, ⟨before, hbefore⟩, hentry, ?_⟩
  intro step e hcreate hrefused
  cases step with
  | create => exact absurd rfl hcreate
  | fill => rw [hfill] at hrefused; cases hrefused
  | inspect => rw [hinspect] at hrefused; cases hrefused
  | replace => rw [hreplace] at hrefused; cases hrefused
  | setMode =>
    refine ⟨rfl, ?_⟩
    cases before with
    | false => exact hbefore
    | true => rw [hset (hkept rfl)] at hrefused; cases hrefused

/-- A write that succeeds is one that the tree admits, and no step of it is refused; to set the mode
may be refused where nothing is at the path. -/
theorem admits_of_writeAtomicUnless (h : (f.writeAtomicUnless r p content).1 = .ok ()) :
    f.Admits p content ∧
      ∀ step e, r.step step = some e → step = .setMode ∧ f.exists? p = .ok false := by
  obtain ⟨hplace, hcreate, dir, hloc, hdir, hlong, hfilled⟩ :=
    writeAtomicUnless_eq_ok.1 (Prod.ext h rfl)
  have hne := Tree.append_singleton_ne_nil dir (f.tree.freshName dir p.name)
  have hfree := Tree.node?_freshName f.tree dir p.name
  obtain ⟨hpath, hencoded, hknown, hentry, hrefused⟩ := admits_of_fillAndMove (f := f)
    (g := ⟨f.tree.put _ _, f.cwd⟩) (Tree.filedAt_put hne hfree [] Tree.freshMode) rfl hfree hne
    (congrArg Prod.fst hfilled)
  refine ⟨⟨hpath, hplace, ⟨dir, hloc, hdir, hlong⟩, hencoded, hknown, hentry⟩, ?_⟩
  intro step e hstep
  refine hrefused step e ?_ hstep
  rintro rfl
  rw [hcreate] at hstep
  cases hstep

theorem Admits.writeAtomicUnless (h : f.Admits p content) (hr : ∀ step, r.step step = none) :
    (f.writeAtomicUnless r p content).1 = .ok () := by
  obtain ⟨dir, hloc, hdir, hlong⟩ := h.directory
  obtain ⟨bytes, hencode⟩ := h.encoded
  have hne := Tree.append_singleton_ne_nil dir (f.tree.freshName dir p.name)
  have hfree := Tree.node?_freshName f.tree dir p.name
  have hfresh := Tree.filedAt_put hne hfree [] Tree.freshMode
  have hknown : ∃ found, exists? ⟨f.tree.put (dir ++ [f.tree.freshName dir p.name])
      (.file [] Tree.freshMode), f.cwd⟩ p = .ok found := by
    rcases exists?_of_fresh (g := ⟨f.tree.put _ _, f.cwd⟩) (p := p) hfresh rfl hfree with
      hsame | ⟨-, hknown⟩
    · rw [hsame]
      exact h.known
    · exact hknown
  obtain ⟨found, hfound⟩ := hknown
  obtain ⟨mode, hmode⟩ := exists_settleMode.2 ⟨hr .inspect, found, hfound, fun _ => hr .setMode⟩
  have htaken := (exists_takePlace (g := ⟨_, f.cwd⟩) (hfresh.put hne bytes mode) rfl hfree
    (Tree.node?_put_of_ne_nil hne)).2 ⟨hr .replace, h.path, h.entry⟩
  have hfilled := fillAndMove_ok_iff.2 ⟨bytes, hencode, hr .fill, mode, hmode, htaken⟩
  exact congrArg Prod.fst (writeAtomicUnless_eq_ok.2 ⟨h.place, hr .create, dir, hloc, hdir, hlong,
    Prod.ext hfilled rfl⟩)

/-- A write is all or nothing on every file system. Stopped at any step, it leaves the tree as it
was. If it is not stopped, the entry of the path is a file with the encoded content and with the
permission bits of what the path led to, and every other entry is as it was. The path leads to the
new file, unless the way to its directory ran through the entry: a link is gone then that the way
needs, and the path ends nowhere. What stops a write is what the tree does not admit and what is
refused, and nothing else. -/
theorem writeAtomic_all_or_nothing (r : Refusals) (f : Files) (p : Path) (content : Text)
    (hp : p.Plain) :
    ((∃ e, f.writeAtomicUnless r p content = (.error e, f.tree)) ∨
      ∃ l bytes t, f.writeAtomicUnless r p content = (.ok (), t) ∧ f.Wrote p content l bytes t ∧
        (¬ f.RunsThrough p l → stat ⟨t, f.cwd⟩ p = .ok (.file bytes (f.modeAt p))) ∧
        (f.RunsThrough p l → (∃ target, f.tree.node? l = some (.link target)) ∧
          stat ⟨t, f.cwd⟩ p = .error .notDirectory)) ∧
    ((f.writeAtomicUnless r p content).1 = .ok () → f.Admits p content ∧
      ∀ step e, r.step step = some e → step = .setMode ∧ f.exists? p = .ok false) ∧
    (f.Admits p content → (∀ step, r.step step = none) →
      (f.writeAtomicUnless r p content).1 = .ok ()) := by
  refine ⟨?_, admits_of_writeAtomicUnless, Admits.writeAtomicUnless⟩
  rcases writeAtomicUnless_cases r f p content with he | ⟨l, bytes, t, ht, hwrote⟩
  · exact .inl he
  · refine .inr ⟨l, bytes, t, ht, hwrote, Wrote.stat (g := ⟨t, f.cwd⟩) hp hwrote rfl, fun hway => ?_⟩
    obtain ⟨hlink, -, hstat⟩ := hwrote.stat_of_runsThrough (g := ⟨t, f.cwd⟩) hp rfl hway
    exact ⟨hlink, hstat⟩

def linked : Files :=
  ⟨⟨[([Text.ofString "a"], .file [65] 0o640),
    ([Text.ofString "l"], .link (Text.ofString "a"))]⟩, []⟩

/-- What a file system refuses that lets nobody set permission bits. -/
def fixedModes : Refusals where
  step
    | .setMode => some .permissionDenied
    | _ => none

/-- The link gives way to a file, which has the permission bits of the file it led to. If the bits
cannot be set, there is no trace of the attempt. -/
theorem writeAtomic_all_or_nothing_link : (Path.ofText (Text.ofString "l")).Plain ∧
    (∃ t, linked.writeAtomic (.ofText (Text.ofString "l")) (Text.ofString "b") = (.ok (), t) ∧
      t.node? [Text.ofString "l"] = some (.file [98] 0o640) ∧
      t.node? [Text.ofString "a"] = some (.file [65] 0o640) ∧
      stat ⟨t, []⟩ (.ofText (Text.ofString "l")) = .ok (.file [98] 0o640)) ∧
    ∃ e, linked.writeAtomicUnless fixedModes (.ofText (Text.ofString "l"))
      (Text.ofString "b") = (.error e, linked.tree) := by
  have hp := Path.plain_ofText (Text.ofString "l")
  have hadmitted := (writeAtomic_all_or_nothing {} linked (.ofText (Text.ofString "l"))
    (Text.ofString "b") hp).1
  have hrefused := writeAtomic_all_or_nothing fixedModes linked (.ofText (Text.ofString "l"))
    (Text.ofString "b") hp
  have hok : (linked.writeAtomic (.ofText (Text.ofString "l")) (Text.ofString "b")).1.toOption =
      some () := by decide +kernel
  have hentry : linked.entry (.ofText (Text.ofString "l")) = .ok [Text.ofString "l"] := by
    decide +kernel
  have hmode : linked.modeAt (.ofText (Text.ofString "l")) = 0o640 := by decide +kernel
  have hway : ¬ linked.RunsThrough (.ofText (Text.ofString "l")) [Text.ofString "l"] := by
    unfold RunsThrough
    decide +kernel
  refine ⟨hp, ?_, ?_⟩
  · rcases hadmitted with ⟨e, he⟩ | ⟨l, bytes, t, ht, hwrote, hstat, -⟩
    · rw [writeAtomic, he] at hok
      cases hok
    · obtain rfl : l = [Text.ofString "l"] := Except.ok.inj (hwrote.entry.symm.trans hentry)
      have hbytes : Utf8.encode (Text.ofString "b") = .ok [98] := by decide +kernel
      obtain rfl : bytes = [98] := Except.ok.inj (hwrote.encoded.symm.trans hbytes)
      refine ⟨t, ht, hmode ▸ hwrote.node, ?_, hmode ▸ hstat hway⟩
      rw [hwrote.others _ (by decide +kernel)]
      rfl
  · rcases hrefused.1 with he | ⟨l, bytes, t, ht, -⟩
    · exact he
    · have hthere : linked.exists? (.ofText (Text.ofString "l")) = .ok true :=
        toOption_eq_some.1 (by decide +kernel)
      rw [((hrefused.2.1 (by rw [ht])).2 .setMode .permissionDenied rfl).2] at hthere
      cases hthere

def twoWays : Files :=
  ⟨⟨[([Text.ofString "d"], .dir 0o755), ([Text.ofString "l"], .link (Text.ofString "d"))]⟩, []⟩

/-- A write to the link by a path that goes through the link first succeeds, and then nothing is at
the path: its way goes through a file. -/
theorem writeAtomic_cuts_way :
    ∃ t, twoWays.writeAtomic (.ofText (Text.ofString "l/../l")) (Text.ofString "x") = (.ok (), t) ∧
      t.node? [Text.ofString "l"] = some (.file [120] 0o755) ∧
      stat ⟨t, []⟩ (.ofText (Text.ofString "l/../l")) = .error .notDirectory := by
  have hok : (twoWays.writeAtomic (.ofText (Text.ofString "l/../l")) (Text.ofString "x")).1 = .ok () :=
    toOption_eq_some.1 (by decide +kernel)
  refine ⟨(twoWays.writeAtomic (.ofText (Text.ofString "l/../l")) (Text.ofString "x")).2,
    Prod.ext hok rfl, ?_, ?_⟩
  · decide +kernel
  · decide +kernel

end Redraft.Files
