import Redraft.Checker
import Redraft.Proofs.Host
import Redraft.Proofs.Text.Blank

/-!
Checks that fail, and what the others say. A checker that is not there or takes too long is a
diagnostic, so that a check fails only if its command cannot be tried, if the system refuses to start
a program that is there, or if the limit is too long to wait for. Diagnostics are never empty.
-/
namespace Redraft

open Failure (OfHost)

variable {σ : Type} {h : Host σ}

/-- The command that checks a file. -/
def Checker.toCommand (c : Checker) (timeout : Option Seconds) (p : Path) : Command :=
  ⟨c.command :: c.args ++ [p.toText], timeout, none, none⟩

def Checker.conclude (timeout : Option Seconds) : Except Failure Output → Except Failure Outcome
  | .ok o => .ok (.ofOutput o)
  | .error (.command e) => .ok (.ofError timeout e)
  | .error e => .error e

theorem Checker.run_fst (h : Host σ) (c : Checker) (timeout : Option Seconds) (f : Files) (p : Path)
    (s : σ) : (c.run h timeout f p s).1 = conclude timeout (h.run f (c.toCommand timeout p) s).1 := by
  have hcommand : (⟨c.commandLine p, timeout, none, none⟩ : Command) = c.toCommand timeout p := rfl
  unfold run
  dsimp only
  rw [hcommand]
  cases h.run f (c.toCommand timeout p) s with
  | mk answer s' =>
    cases answer with
    | ok o => rfl
    | error e => cases e <;> rfl

theorem Checker.run_snd (c : Checker) (timeout : Option Seconds) (f : Files) (p : Path) (s : σ) :
    (c.run h timeout f p s).2 = (h.run f ⟨c.commandLine p, timeout, none, none⟩ s).2 := by
  unfold run
  dsimp only
  cases h.run f ⟨c.commandLine p, timeout, none, none⟩ s with
  | mk answer s' =>
    cases answer with
    | ok o => rfl
    | error e => cases e <;> rfl

theorem Checker.run_fails (hh : h.Ordinary) (c : Checker) (timeout : Option Seconds) (f : Files)
    (p : Path) (s : σ) : FailsWith OfHost (c.run h timeout f p s).1 := by
  have hargv : (c.toCommand timeout p).argv ≠ [] := List.cons_ne_nil _ _
  have hfails := hh f (c.toCommand timeout p) s hargv
  rw [run_fst]
  cases hrun : (h.run f (c.toCommand timeout p) s).1 with
  | ok o => exact .ok _
  | error e =>
    rcases hfails e hrun with ⟨error, rfl⟩ | he
    · exact .ok _
    · cases he with
      | file error path => exact .error (.file error path)
      | nulInPath => exact .error .nulInPath
      | unencodable fault => exact .error (.unencodable fault)
      | longTime reason => exact .error (.longTime reason)

theorem CheckerTable.check_fails (hh : h.Ordinary) (t : CheckerTable) (f : Files) (p : Path) (s : σ) :
    FailsWith OfHost (t.check h f p s).1 := by
  unfold check
  cases t.checkerFor? p with
  | some c => exact c.run_fails hh t.timeout f p s
  | none => exact .ok _

theorem Outcome.diagnostics?_ofOutput (o : Output) : (ofOutput o).diagnostics? ≠ some [] := by
  unfold ofOutput
  dsimp only
  split_ifs
  all_goals simp_all [diagnostics?, Text.trim_eq_nil]

theorem Outcome.diagnostics?_ofError {e : CommandError} (timeout : Option Seconds)
    (he : e ≠ .notStarted []) : (ofError timeout e).diagnostics? ≠ some [] := by
  cases e with
  | timedOut reason => simp [ofError, diagnostics?, Text.ofString]
  | notStarted reason => simpa [ofError, diagnostics?] using he

theorem Checker.diagnostics?_run (hh : h.Explains) (c : Checker) (timeout : Option Seconds) (f : Files)
    (p : Path) (s : σ) {o : Outcome} (hrun : (c.run h timeout f p s).1 = .ok o) :
    o.diagnostics? ≠ some [] := by
  have hargv : (c.toCommand timeout p).argv ≠ [] := List.cons_ne_nil _ _
  have hexplains := hh f (c.toCommand timeout p) s hargv
  rw [run_fst] at hrun
  unfold conclude at hrun
  split at hrun
  · cases hrun
    exact Outcome.diagnostics?_ofOutput _
  · next hcommand =>
    cases hrun
    refine Outcome.diagnostics?_ofError timeout fun he => ?_
    subst he
    exact hexplains _ hcommand rfl
  · cases hrun

theorem CheckerTable.diagnostics?_check (hh : h.Explains) (t : CheckerTable) (f : Files) (p : Path)
    (s : σ) {o : Outcome} (hcheck : (t.check h f p s).1 = .ok o) : o.diagnostics? ≠ some [] := by
  unfold check at hcheck
  cases hchecker : t.checkerFor? p with
  | none =>
    rw [hchecker] at hcheck
    cases hcheck
    simp [Outcome.diagnostics?]
  | some c =>
    rw [hchecker] at hcheck
    exact c.diagnostics?_run hh t.timeout f p s hcheck

namespace Command

/-- What no check gets over in an attempt to run its command: there is nothing to try, the system does
not start a program that is there, or the limit is too long to wait for. -/
def fatal? (c : Command) (x : Ending) : Option Failure :=
  c.fault?.or <| match x with
    | .refused e => if e = .notFound then none else some (.file e c.program)
    | _ => c.waitFault?.map .longTime

/-- What a check says after an attempt that it gets over. -/
inductive Says (c : Command) : Ending → Outcome → Prop
  | missing : Says c (.refused .notFound)
      (.diagnostics (Text.ofString "Command not found: " ++ c.program) none)
  | overdue : Says c .overdue (.diagnostics (Text.ofString "checker timed out after "
      ++ Seconds.limitText c.timeout ++ Text.ofString "s") none)
  | errors {o : Output} (h : Text.isBlank o.stderr = false) :
      Says c (.exited o) (.diagnostics (Text.trim o.stderr) (some o.returncode))
  | prints {o : Output} (hstderr : Text.isBlank o.stderr = true)
      (hstdout : Text.isBlank o.stdout = false) :
      Says c (.exited o) (.diagnostics (Text.trim o.stdout) (some o.returncode))
  | nothing {o : Output} (hstderr : Text.isBlank o.stderr = true)
      (hstdout : Text.isBlank o.stdout = true) : Says c (.exited o) (.clean o.returncode)

variable {c : Command} {x : Ending} {o : Outcome} {out : Output}

theorem says_ofOutput (c : Command) (out : Output) : Says c (.exited out) (.ofOutput out) := by
  unfold Outcome.ofOutput
  dsimp only
  cases hstderr : Text.isBlank out.stderr with
  | false =>
    rw [if_neg Bool.false_ne_true, if_neg (by simp [hstderr])]
    exact .errors hstderr
  | true =>
    rw [if_pos rfl]
    cases hstdout : Text.isBlank out.stdout with
    | false =>
      rw [if_neg Bool.false_ne_true]
      exact .prints hstderr hstdout
    | true =>
      rw [if_pos rfl]
      exact .nothing hstderr hstdout

theorem Says.hasDiagnostics_iff (h : Says c x o) : o.hasDiagnostics = true ↔
    (∃ e, x = .refused e) ∨ x = .overdue ∨
      ∃ out, x = .exited out ∧ ¬ (Text.isBlank out.stderr = true ∧ Text.isBlank out.stdout = true) := by
  cases h with
  | missing => simp [Outcome.hasDiagnostics, Outcome.diagnostics?]
  | overdue => simp [Outcome.hasDiagnostics, Outcome.diagnostics?]
  | errors hstderr => simp [Outcome.hasDiagnostics, Outcome.diagnostics?, hstderr]
  | prints hstderr hstdout => simp [Outcome.hasDiagnostics, Outcome.diagnostics?, hstdout]
  | nothing hstderr hstdout =>
    simp [Outcome.hasDiagnostics, Outcome.diagnostics?, hstderr, hstdout]

theorem Says.isBlank_text (h : Says c x o) (ho : o.hasDiagnostics = true) :
    Text.isBlank o.text = false := by
  cases h with
  | missing => rfl
  | overdue => rfl
  | errors hstderr => exact (Text.isBlank_trim _).trans hstderr
  | prints hstderr hstdout => exact (Text.isBlank_trim _).trans hstdout
  | nothing hstderr hstdout => cases ho

theorem Says.text_exited (h : Says c (.exited out) o) (ho : o.hasDiagnostics = true) :
    o.text = Text.trim (if Text.isBlank out.stderr then out.stdout else out.stderr) := by
  cases h with
  | errors hstderr =>
    rw [hstderr]
    rfl
  | prints hstderr hstdout =>
    rw [hstderr]
    rfl
  | nothing hstderr hstdout => cases ho

theorem Says.eq_clean (h : Says c x o) (ho : o.hasDiagnostics = false) :
    ∃ out, x = .exited out ∧ o = .clean out.returncode := by
  cases h with
  | nothing hstderr hstdout => exact ⟨_, rfl, rfl⟩
  | _ => cases ho

end Command

namespace Checker

open Command

variable {room : Room} (attempt : Files → Command → σ → Ending × σ) (c : Checker) (timeout : Option Seconds)
  (f : Files) (p : Path) (s : σ)

/-- A check fails with what is fatal to it, and otherwise it says what has come of its command. -/
theorem run_ofSystem {x : Ending} (hx : (attempt f (c.toCommand timeout p) s).1 = x) :
    (∃ e, (c.toCommand timeout p).fatal? x = some e ∧
      (c.run (.ofSystem room attempt) timeout f p s).1 = .error e) ∨
    ((c.toCommand timeout p).fatal? x = none ∧
      ∃ o, (c.run (.ofSystem room attempt) timeout f p s).1 = .ok o ∧
        Says (c.toCommand timeout p) x o) := by
  have hargv : (c.toCommand timeout p).argv ≠ [] := List.cons_ne_nil _ _
  rw [run_fst, Host.ofSystem_run_fst, hx]
  unfold fatal?
  cases hfault : (c.toCommand timeout p).fault? with
  | some e =>
    refine .inl ⟨e, rfl, ?_⟩
    cases Host.ofHost_of_fault? hargv hfault <;> rfl
  | none =>
    cases x with
    | refused error =>
      cases error with
      | notFound => exact .inr ⟨rfl, _, rfl, .missing⟩
      | _ => exact .inl ⟨_, rfl, rfl⟩
    | overdue =>
      simp only [result]
      cases (c.toCommand timeout p).waitFault? with
      | some reason => exact .inl ⟨_, rfl, rfl⟩
      | none => exact .inr ⟨rfl, _, rfl, .overdue⟩
    | exited out =>
      simp only [result]
      cases (c.toCommand timeout p).waitFault? with
      | some reason => exact .inl ⟨_, rfl, rfl⟩
      | none => exact .inr ⟨rfl, _, rfl, says_ofOutput _ out⟩

end Checker

namespace CheckerTable

/-- However a system ends the attempt to run a checker, the check fails exactly if that is fatal, and
otherwise it has an outcome. There are diagnostics exactly if the checker did not start, took too long
or wrote something that is not blank; they are not blank, and are what was written without the blanks
around it. If there are none, the checker has ended, and its return code does not matter. -/
theorem check_says_unless_fatal (room : Room) (attempt : Files → Command → σ → Ending × σ) (t : CheckerTable)
    (f : Files) (p : Path) (s : σ) {c : Checker} (hc : t.checkerFor? p = some c) {x : Ending}
    (hx : (attempt f (c.toCommand t.timeout p) s).1 = x) :
    (∀ e, (t.check (.ofSystem room attempt) f p s).1 = .error e ↔
      (c.toCommand t.timeout p).fatal? x = some e) ∧
    ((c.toCommand t.timeout p).fatal? x = Option.none →
      ∃ o, (t.check (.ofSystem room attempt) f p s).1 = .ok o ∧
        (o.hasDiagnostics = true ↔ (∃ e, x = .refused e) ∨ x = .overdue ∨ ∃ out, x = .exited out ∧
          ¬ (Text.isBlank out.stderr = true ∧ Text.isBlank out.stdout = true)) ∧
        (o.hasDiagnostics = true → Text.isBlank o.text = false ∧
          ∀ out, x = .exited out →
            o.text = Text.trim (if Text.isBlank out.stderr then out.stdout else out.stderr) ∧
            Text.trim o.text = o.text) ∧
        (o.hasDiagnostics = false → o.text = [] ∧
          ∃ out, x = .exited out ∧ o = .clean out.returncode)) := by
  have hcheck : t.check (.ofSystem room attempt) f p s = c.run (.ofSystem room attempt) t.timeout f p s := by
    rw [check, hc]
  rw [hcheck]
  rcases c.run_ofSystem attempt t.timeout f p s hx with ⟨e, hfatal, hrun⟩ | ⟨hfatal, o, hrun, houtcome⟩
  · rw [hrun, hfatal]
    refine ⟨fun e' => ?_, fun h => by cases h⟩
    rw [Except.error.injEq, Option.some.injEq]
  · rw [hrun, hfatal]
    refine ⟨fun e => by simp, fun _ => ⟨o, rfl, ?_⟩⟩
    refine ⟨houtcome.hasDiagnostics_iff, fun ho => ⟨houtcome.isBlank_text ho, ?_⟩, fun ho => ?_⟩
    · rintro out rfl
      have htext := houtcome.text_exited ho
      refine ⟨htext, ?_⟩
      rw [htext, Text.trim_trim]
    · obtain ⟨out, hout, rfl⟩ := houtcome.eq_clean ho
      exact ⟨rfl, out, hout, rfl⟩

def locked : Files := ⟨⟨[(["f.x"], .file [] 0o644), (["tool"], .file [] 0o644)]⟩, []⟩

def tool : Checker := ⟨"./tool", [], "./tool"⟩

def ofTool : CheckerTable := ofConfig { checkers := [⟨".x", "./tool", [], true⟩] }

/-- A system on which the tool prints, and writes only white space among its errors. -/
def printing (_ : Files) (_ : Command) (s : Unit) : Ending × Unit :=
  (.exited ⟨1, " f.x: note\n", " \n"⟩, s)

theorem check_says_unless_fatal_printing :
    ofTool.checkerFor? ⟨.relative, ["f.x"]⟩ = some tool ∧
    (printing locked (tool.toCommand ofTool.timeout ⟨.relative, ["f.x"]⟩) ()).1 =
      .exited ⟨1, " f.x: note\n", " \n"⟩ ∧
    ∃ o, (ofTool.check (.ofSystem ⟨9, 9, 9⟩ printing) locked ⟨.relative, ["f.x"]⟩ ()).1 = .ok o ∧
      o.hasDiagnostics = true ∧ o.text = "f.x: note" := by
  obtain ⟨-, houtcome⟩ := check_says_unless_fatal ⟨9, 9, 9⟩ printing ofTool locked ⟨.relative, ["f.x"]⟩ ()
    (c := tool) rfl rfl
  obtain ⟨o, ho, hdiagnostics, htext, -⟩ := houtcome rfl
  have hsome := hdiagnostics.2 (.inr (.inr ⟨_, rfl, by decide⟩))
  exact ⟨rfl, rfl, o, ho, hsome, ((htext hsome).2 _ rfl).1⟩

/-- The system refuses to start the tool: the check fails. -/
theorem check_fails_on_locked :
    ofTool.checkerFor? ⟨.relative, ["f.x"]⟩ = some tool ∧
    Host.attempt locked (tool.toCommand ofTool.timeout ⟨.relative, ["f.x"]⟩) =
      .refused .permissionDenied ∧
    (ofTool.check (Host.system ⟨9, 9, 9⟩) locked ⟨.relative, ["f.x"]⟩ ()).1 =
      .error (.file .permissionDenied "./tool") := ⟨rfl, rfl, rfl⟩

end CheckerTable

end Redraft
