import Redraft.Decimal.Shortest

/-!
Commands: a program with its arguments, what it reads, and how long it may take.
-/
namespace Redraft

/-- A length of time, as it was given. -/
inductive Seconds where
  | whole (n : Int)
  | real (x : Float)

namespace Seconds

def toText : Seconds → Text
  | whole n => Text.ofInt n
  | real x => Decimal.write x

def add : Seconds → Seconds → Seconds
  | whole m, whole n => whole (m + n)
  | whole m, real y => real (Float.ofInt m + y)
  | real x, whole n => real (x + Float.ofInt n)
  | real x, real y => real (x + y)

def limitText : Option Seconds → Text
  | some s => s.toText
  | none => "None"

def longestWait : Float := 2147483647

def longestSpan : Float := 9223372036854

def waitFault? (s : Seconds) : Option Text :=
  let (isHuge, x) := match s with
    | .whole n => ((Float.ofInt n).isInf, Float.ofInt n)
    | .real x => (false, x)
  let wait := x * 1000
  if isHuge then some "int too large to convert to float"
  else if 0 < x && wait.isInf then some "cannot convert float infinity to integer"
  else if longestSpan < wait then some "timestamp too large to convert to C _PyTime_t"
  else if longestWait < wait then some "timeout is too large"
  else none

end Seconds

structure Command where
  argv : List Text
  timeout : Option Seconds := none
  input : Option Text := none
  /-- The text of the file that the arguments name as `Command.systemFile`. -/
  system : Option Text := none

namespace Command

/-- How arguments name the file with the system prompt, which is there while the command runs. -/
def systemFile : Text := "<SYSFILE>"

def program (c : Command) : Text := c.argv.head?.getD []

end Command

/-- What a command leaves. A program that a signal ends has a negative return code. -/
structure Output where
  returncode : Int := 0
  stdout : Text := []
  stderr : Text := []
  deriving DecidableEq

/-! Signs of life of a command that takes long: one after each interval in which it did not end. -/
namespace Heartbeat

def message : Text := "Command still running"

def elapsedFrom (interval gone : Seconds) : Nat → List Seconds
  | 0 => []
  | beats + 1 =>
    let gone := gone.add interval
    gone :: elapsedFrom interval gone beats

def elapsed (interval : Seconds) (beats : Nat) : List Seconds :=
  elapsedFrom interval (.whole 0) beats

def waits (interval : Seconds) (beats : Nat) : List Seconds := List.replicate (beats + 1) interval

theorem elapsedFrom_whole (n m : Int) (beats : Nat) : elapsedFrom (.whole n) (.whole m) beats =
    (List.range beats).map fun k => .whole (m + (k + 1) * n) := by
  induction beats generalizing m with
  | zero => rfl
  | succ beats ih =>
    have hsum (k : Nat) : m + n + (k + 1) * n = m + ((k + 1 : Nat) + 1) * n := by grind
    rw [elapsedFrom, Seconds.add, ih, List.range_succ_eq_map, List.map_cons, List.map_map]
    simp [hsum]

/-- With whole seconds each sign tells of one interval more than the one before it. -/
theorem elapsed_whole (n : Int) (beats : Nat) :
    elapsed (.whole n) beats = (List.range beats).map fun k => .whole ((k + 1) * n) := by
  rw [elapsed, elapsedFrom_whole]
  simp

end Heartbeat

end Redraft
