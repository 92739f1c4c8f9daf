import Redraft.Config.Basic
import Redraft.Host.Basic
import Redraft.Text.Blank
import Redraft.Text.Keyed

/-!
Checkers: commands that look at a file and say what is wrong with it. What they write counts, and
their return code does not.
-/
namespace Redraft

/-- What a check says. -/
inductive Outcome where
  | clean (returncode : Int)
  /-- The return code is absent if the checker did not run to its end. -/
  | diagnostics (text : Text) (returncode : Option Int)
  | notApplicable
  deriving DecidableEq

namespace Outcome

def diagnostics? : Outcome → Option Text
  | diagnostics text _ => some text
  | _ => none

def text (o : Outcome) : Text := o.diagnostics?.getD []

def hasDiagnostics (o : Outcome) : Bool := o.diagnostics?.isSome

def returncode? : Outcome → Option Int
  | clean n => some n
  | diagnostics _ n => n
  | notApplicable => none

def ofOutput (o : Output) : Outcome :=
  let text := if Text.isBlank o.stderr then o.stdout else o.stderr
  if Text.isBlank text then clean o.returncode else diagnostics (Text.trim text) (some o.returncode)

def ofError (timeout : Option Seconds) : CommandError → Outcome
  | .timedOut _ =>
    diagnostics (Text.ofString "checker timed out after " ++ Seconds.limitText timeout
      ++ Text.ofString "s") none
  | .notStarted reason => diagnostics reason none

end Outcome

structure Checker where
  command : Text
  args : List Text
  name : Text
  deriving DecidableEq

namespace Checker

/-- A checker under a name; without one it goes by its command. -/
def named (command : Text) (args : List Text) (name : Option Text) : Checker :=
  ⟨command, args, (name.filter fun n => !n.isEmpty).getD command⟩

def ofConfig (c : CheckerConfig) : Checker := named c.command c.args none

def commandLine (c : Checker) (p : Path) : List Text := c.command :: c.args ++ [p.toText]

/-- Checks a file. A checker that is not there, or that takes too long, makes a diagnostic. -/
def run {σ : Type} (h : Host σ) (c : Checker) (timeout : Option Seconds) (f : Files) (p : Path)
    (s : σ) : Except Failure Outcome × σ :=
  let command : Command := ⟨c.commandLine p, timeout, none, none⟩
  match h.run f command s with
  | (.ok o, s) => (.ok (.ofOutput o), s)
  | (.error (.command e), s) => (.ok (.ofError timeout e), s)
  | (.error e, s) => (.error e, s)

end Checker

/-- The checkers by the endings of the files that they are for. -/
structure CheckerTable where
  checkers : List (Text × Checker)
  timeout : Option Seconds

namespace CheckerTable

def ofConfig (c : Config) : CheckerTable :=
  ⟨Keyed.ofPairs (c.enabledCheckers.map fun k => (k.extension, .ofConfig k)),
    some (.whole c.checkTimeout)⟩

def none : CheckerTable := ⟨[], .none⟩

def checkerFor? (t : CheckerTable) (p : Path) : Option Checker := t.checkers.lookup p.suffix

def check {σ : Type} (h : Host σ) (t : CheckerTable) (f : Files) (p : Path) (s : σ) :
    Except Failure Outcome × σ :=
  match t.checkerFor? p with
  | some c => c.run h t.timeout f p s
  | .none => (.ok .notApplicable, s)

end CheckerTable

end Redraft
