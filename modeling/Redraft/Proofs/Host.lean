import Redraft.Host.Playback
import Redraft.Host.System
import Redraft.Proofs.Files.Failing
import Redraft.Session.Start

/-!
What hosts fail with. A command that gives no result could not be started or took too long, which is
an error of the command; or it could not even be tried.
-/
namespace Redraft

variable {σ : Type} {room : Room}

/-- Why a command cannot be tried: the file system refuses, an argument cannot be one, or the time is
too long to wait for. -/
inductive Failure.OfHost : Failure → Prop
  | file (error : FileError) (path : Text) : OfHost (.file error path)
  | nulInPath : OfHost .nulInPath
  | unencodable (fault : Utf8.Unencodable) : OfHost (.unencodable fault)
  | longTime (reason : Text) : OfHost (.longTime reason)

open Failure (OfHost)

namespace Host

/-- A host that fails with nothing else as long as there is a program to run. -/
def Ordinary (h : Host σ) : Prop := ∀ (f : Files) (c : Command) (s : σ), c.argv ≠ [] →
  FailsWith (fun e => (∃ error, e = .command error) ∨ OfHost e) (h.run f c s).1

theorem ofHost_of_nameFault? {t : Text} {e : Failure} (h : nameFault? t = some e) : OfHost e := by
  unfold nameFault? at h
  split_ifs at h
  · cases h
    exact .unencodable _
  · cases h
    exact .nulInPath

theorem ofHost_of_fault? {c : Command} {e : Failure} (hargv : c.argv ≠ []) (h : c.fault? = some e) :
    OfHost e := by
  unfold Command.fault? at h
  split at h
  · next fault hfault =>
    cases h
    obtain ⟨t, -, ht⟩ := List.exists_of_findSome?_eq_some hfault
    exact ofHost_of_nameFault? ht
  · rw [if_neg (by simpa using hargv)] at h
    cases h

theorem result_fails (c : Command) (x : Ending) :
    FailsWith (fun e => e = .command (.missing c.program) ∨ e = .command (.timedOut c.timeoutMessage) ∨
      OfHost e) (c.result x) := by
  cases x with
  | exited o =>
    unfold Command.result
    cases c.waitFault? with
    | some reason => exact .error (.inr (.inr (.longTime reason)))
    | none => exact .ok o
  | overdue =>
    unfold Command.result
    cases c.waitFault? with
    | some reason => exact .error (.inr (.inr (.longTime reason)))
    | none => exact .error (.inr (.inl rfl))
  | refused error =>
    cases error with
    | notFound => exact .error (.inl rfl)
    | _ => exact .error (.inr (.inr (.file _ _)))

theorem ofSystem_run_fst (attempt : Files → Command → σ → Ending × σ) (f : Files) (c : Command) (s : σ) :
    ((ofSystem room attempt).run f c s).1 =
      match c.fault? with
      | some fault => .error fault
      | none => c.result (attempt f c s).1 := by
  unfold ofSystem
  dsimp only
  cases c.fault? <;> rfl

theorem ofSystem_fails (attempt : Files → Command → σ → Ending × σ) (f : Files) {c : Command} (s : σ)
    (hargv : c.argv ≠ []) :
    FailsWith (fun e => e = .command (.missing c.program) ∨ e = .command (.timedOut c.timeoutMessage) ∨
      OfHost e) ((ofSystem room attempt).run f c s).1 := by
  rw [ofSystem_run_fst]
  cases hfault : c.fault? with
  | some fault => exact .error (.inr (.inr (ofHost_of_fault? hargv hfault)))
  | none => exact result_fails c (attempt f c s).1

theorem ordinary_ofSystem (attempt : Files → Command → σ → Ending × σ) :
    (ofSystem room attempt).Ordinary := by
  intro f c s hargv
  refine (ofSystem_fails attempt f s hargv).mono fun e he => ?_
  rcases he with rfl | rfl | he
  · exact .inl ⟨_, rfl⟩
  · exact .inl ⟨_, rfl⟩
  · exact .inr he

theorem ordinary_system : (system room).Ordinary := ordinary_ofSystem _

theorem Ordinary.hosted {h : Host σ} (hh : h.Ordinary) : (Outside.hosted h).Ordinary := by
  intro f c s hargv
  exact hh f c s.host hargv

/-- A host that says why a command could not be started. -/
def Explains (h : Host σ) : Prop := ∀ (f : Files) (c : Command) (s : σ), c.argv ≠ [] →
  FailsWith (fun e => e ≠ .command (.notStarted [])) (h.run f c s).1

theorem explains_playback : (playback room).Explains := by
  rintro f c ⟨takes, calls⟩ - e he
  cases takes with
  | nil =>
    cases he
    simp [Text.ofString]
  | cons take rest =>
    cases take with
    | output o => cases he
    | timeout =>
      cases he
      simp
    | missing =>
      cases he
      simp [CommandError.missing, Text.ofString]

theorem explains_ofSystem (attempt : Files → Command → σ → Ending × σ) :
    (ofSystem room attempt).Explains := by
  intro f c s hargv
  refine (ofSystem_fails attempt f s hargv).mono fun e he => ?_
  rcases he with rfl | rfl | he
  · simp [CommandError.missing, Text.ofString]
  · simp
  · rintro rfl
    cases he

theorem explains_system : (system room).Explains := explains_ofSystem _

theorem Explains.hosted {h : Host σ} (hh : h.Explains) : (Outside.hosted h).Explains := by
  intro f c s hargv
  exact hh f c s.host hargv

end Host

end Redraft
