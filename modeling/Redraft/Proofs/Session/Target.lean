import Redraft.Proofs.Files.Atomic
import Redraft.Proofs.Session.Rounds

/-!
The target on disk is what was written last. At every point of a run and at its end the files are
those that the run began with, but for the entry of the target, which holds the last result that was
written.
-/
namespace Redraft

namespace Files

/-- The files are as a run found them, or as one write after another to a path has left them. -/
def Kept (f : Files) (p : Path) (w : Option Text) (g : Files) : Prop :=
  match w with
  | none => g = f
  | some content => g.cwd = f.cwd ∧ ∃ l bytes, f.Wrote p content l bytes g.tree

theorem Kept.write {f g g' : Files} {p : Path} {w : Option Text} {content : Text} {l : Location}
    {bytes : Bytes} (hp : p.Plain) (h : f.Kept p w g) (hcwd : g'.cwd = g.cwd)
    (hw : g.Wrote p content l bytes g'.tree) : f.Kept p (some content) g' := by
  cases w with
  | none =>
    obtain rfl : g = f := h
    exact ⟨hcwd, l, bytes, hw⟩
  | some earlier =>
    obtain ⟨hcwd', l', bytes', hearlier⟩ := h
    exact ⟨hcwd.trans hcwd', l', bytes, hearlier.trans hp hcwd' hw⟩

/-- What the files of a run are to its first files. Before anything was written they are the same.
Then they differ in one place, the entry that the target named at first: a regular file is there,
with what was written last and with the permission bits of the target as it was at first. The target
leads to that file, unless the way to its directory ran through that entry, a link that the file has
replaced: then it ends nowhere. -/
def Reflects (f : Files) (p : Path) (w : Option Text) (g : Files) : Prop :=
  match w with
  | none => g = f
  | some content => g.cwd = f.cwd ∧ ∃ l bytes, f.entry p = .ok l ∧ Utf8.encode content = .ok bytes ∧
      g.tree.node? l = some (.file bytes (f.modeAt p)) ∧
      (∀ m, m ≠ l → g.tree.node? m = f.tree.node? m) ∧
      (¬ f.RunsThrough p l → g.stat p = .ok (.file bytes (f.modeAt p))) ∧
      (f.RunsThrough p l → (∃ target, f.tree.node? l = some (.link target)) ∧
        g.stat p = .error .notDirectory)

theorem Kept.reflects {f g : Files} {p : Path} {w : Option Text} (hp : p.Plain) (h : f.Kept p w g) :
    f.Reflects p w g := by
  cases w with
  | none => exact h
  | some content =>
    obtain ⟨hcwd, l, bytes, hw⟩ := h
    refine ⟨hcwd, l, bytes, hw.entry, hw.encoded, hw.node, hw.others, hw.stat hp hcwd, fun hway => ?_⟩
    obtain ⟨hlink, -, hstat⟩ := hw.stat_of_runsThrough hp hcwd hway
    exact ⟨hlink, hstat⟩

end Files

namespace Setup

variable {σ : Type} {u : Setup σ} {s s' s₀ : RunState σ} {r : Round} {content : Text}

theorem Edits.write_of_finished {result : SessionResult} (h : Edits u content s (.finished result) s') :
    result.content = Text.trim content ∧
      (u.put s.session.target s.files (Text.trim content) s.outside).1 = .ok () := by
  cases h <;> simp_all [Session.result]

/-- A round that finishes the run gives back what it has written. -/
theorem Goes.written_of_finished {result : SessionResult} (h : Goes u s (.finished result) s') :
    u.written s = some result.content := by
  cases h with
  | edited hspent hask hturn hedit =>
    obtain ⟨hcontent, hwrite⟩ := hedit.write_of_finished
    change (u.put s.session.target s.files _ _).1 = .ok () at hwrite
    simp [written, hspent, hask, hturn, hwrite, hcontent]

/-- A round leaves the files alone, or it writes to the target and to nothing else. -/
theorem Goes.files (h : Goes u s r s') :
    u.written s = none ∧ s'.files = s.files ∨
    ∃ content l bytes, u.written s = some content ∧ s'.files.cwd = s.files.cwd ∧
      s.files.Wrote s.session.target content l bytes s'.files.tree := by
  cases h with
  | spent hspent => exact .inl ⟨by simp [written, hspent], rfl⟩
  | unanswered hspent hask => exact .inl ⟨by simp [written, hspent, hask], rfl⟩
  | unread hspent hask hturn => exact .inl ⟨by simp [written, hspent, hask, hturn], rfl⟩
  | served hspent hask hturn hserve => exact .inl ⟨by simp [written, hspent, hask, hturn], rfl⟩
  | unserved hspent hask hturn hserve => exact .inl ⟨by simp [written, hspent, hask, hturn], rfl⟩
  | @edited reply content r s' hspent hask hturn hedit =>
    have hfiles := hedit.files.2
    rw [ask_files, ask_session] at hfiles
    rcases u.put_cases s.session.target s.files (Text.trim content) (u.ask s).2.outside with
      ⟨e, he⟩ | ⟨l, bytes, t, ht, hw⟩
    · left
      refine ⟨by simp [written, hspent, hask, hturn, he], ?_⟩
      rw [hfiles, he]
    · right
      refine ⟨Text.trim content, l, bytes, by simp [written, hspent, hask, hturn, ht], ?_, ?_⟩
      · rw [hfiles]
      · rw [hfiles, ht]
        exact hw

theorem Goes.kept {f : Files} {p : Path} {w : Option Text} (hp : p.Plain)
    (htarget : s.session.target = p) (h : Goes u s r s') (hk : f.Kept p w s.files) :
    f.Kept p ((u.written s).or w) s'.files := by
  rcases h.files with ⟨hnone, hfiles⟩ | ⟨content, l, bytes, hsome, hcwd, hw⟩
  · rw [hnone, Option.none_or, hfiles]
    exact hk
  · rw [hsome, Option.some_or]
    rw [htarget] at hw
    exact hk.write hp hcwd hw

/-- What holds of every point of a run: its target is the first one, and its files are kept. -/
theorem Reaches.kept {w : Option Text} (hp : s₀.session.target.Plain) (h : Reaches u s₀ w s) :
    s.session.target = s₀.session.target ∧ s₀.files.Kept s₀.session.target w s.files := by
  induction h with
  | start => exact ⟨rfl, rfl⟩
  | again h hround ih =>
    have hgoes := goes_iff.2 hround
    exact ⟨hgoes.target.trans ih.1, hgoes.kept hp ih.1 ih.2⟩

theorem Ends.kept {w : Option Text} {x : Except Failure SessionResult} (hp : s₀.session.target.Plain)
    (h : Ends u s₀ w x s) : s₀.files.Kept s₀.session.target w s.files ∧
      ∀ result, x = .ok result → w = some result.content := by
  cases h with
  | finished h hround =>
    have hgoes := goes_iff.2 hround
    refine ⟨hgoes.kept hp (h.kept hp).1 (h.kept hp).2, ?_⟩
    intro result' hx
    rw [← Except.ok.inj hx, hgoes.written_of_finished, Option.some_or]
  | failed h hround =>
    have hgoes := goes_iff.2 hround
    refine ⟨hgoes.kept hp (h.kept hp).1 (h.kept hp).2, ?_⟩
    intro result' hx
    cases hx

/-- At every point of a run where the agent is asked, and however the run ends, the files reflect
the last result that was written, and nothing else; a run that gives a result gives that one. -/
theorem files_reflect_last_write (u : Setup σ) (s₀ : RunState σ) (hp : s₀.session.target.Plain) :
    (∀ w s, Reaches u s₀ w s → s₀.files.Reflects s₀.session.target w s.files) ∧
    ∀ n x s, u.run n s₀ = some (x, s) → ∃ w, Ends u s₀ w x s ∧
      s₀.files.Reflects s₀.session.target w s.files ∧
      ∀ result, x = .ok result → w = some result.content := by
  constructor
  · intro w s h
    exact (h.kept hp).2.reflects hp
  · intro n x s hrun
    obtain ⟨w, h⟩ := exists_run_eq_some.1 ⟨n, hrun⟩
    exact ⟨w, h, (h.kept hp).1.reflects hp, (h.kept hp).2⟩

theorem files_reflect_last_write_unchecked :
    (RunState.oneFile false ["<RESULT> b </RESULT>"]).session.target.Plain ∧
    ∃ x s, refusing.run 1 (.oneFile false ["<RESULT> b </RESULT>"]) = some (x, s) ∧
      (RunState.oneFile false ["<RESULT> b </RESULT>"]).files.Reflects (.ofText "a")
        (some (Text.ofString "b")) s.files := by
  have hp : (RunState.oneFile false ["<RESULT> b </RESULT>"]).session.target.Plain :=
    Path.plain_ofText "a"
  have hcontent : (refusing.run 1 (.oneFile false ["<RESULT> b </RESULT>"])).map
      (fun y => y.1.toOption.map SessionResult.content) = some (some (Text.ofString "b")) := by
    decide +kernel
  refine ⟨hp, ?_⟩
  cases hrun : refusing.run 1 (.oneFile false ["<RESULT> b </RESULT>"]) with
  | none => rw [hrun] at hcontent; cases hcontent
  | some y =>
    obtain ⟨x, s⟩ := y
    obtain ⟨w, -, hreflects, hresult⟩ := (files_reflect_last_write refusing _ hp).2 1 x s hrun
    rw [hrun] at hcontent
    cases x with
    | error e => cases hcontent
    | ok result =>
      have hb : result.content = Text.ofString "b" := by simpa [Except.toOption] using hcontent
      rw [hresult result rfl, hb] at hreflects
      exact ⟨_, s, rfl, hreflects⟩

/-- The start of a session on a link to a directory, with a target that goes through the link first. -/
def throughLink : RunState (List Text) where
  session := { target := .ofText "l/../l", pending := "go" }
  files := Files.twoWays
  outside := ["<RESULT>x</RESULT>"]

/-- Its result is written, and then nothing is at the target. -/
theorem run_cuts_way : ∃ result s, refusing.run 1 throughLink = some (.ok result, s) ∧
    result.content = Text.ofString "x" ∧
    s.files.tree.node? [Text.ofString "l"] = some (.file [120] 0o755) ∧
    s.files.stat (.ofText "l/../l") = .error .notDirectory := by
  have hrun : (refusing.run 1 throughLink).bind (fun y => y.1.toOption.map fun result =>
      (result.content, y.2.files.tree.node? [Text.ofString "l"],
        y.2.files.stat (.ofText "l/../l"))) =
      some (Text.ofString "x", some (.file [120] 0o755), .error .notDirectory) := by
    decide +kernel
  obtain ⟨⟨x, s⟩, hrun, hresult⟩ := Option.bind_eq_some_iff.1 hrun
  obtain ⟨result, hx, heq⟩ := Option.map_eq_some_iff.1 hresult
  obtain ⟨hcontent, hrest⟩ := Prod.mk.inj heq
  obtain ⟨hnode, hstat⟩ := Prod.mk.inj hrest
  obtain rfl := toOption_eq_some.1 hx
  exact ⟨result, s, hrun, hcontent, hnode, hstat⟩

end Setup

end Redraft
