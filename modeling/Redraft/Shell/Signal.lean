import Redraft.Text.Basic

/-!
Signals: their numbers and names, and what is said of a program that one of them has ended.
-/
namespace Redraft.Shell

def signalCount : Nat := 65

def signalTable : List (Nat × String × String) := [
  (0, "EXIT", ""), (1, "HUP", "Hangup"), (2, "INT", "Interrupt"), (3, "QUIT", "Quit"),
  (4, "ILL", "Illegal instruction"), (5, "TRAP", "Trace/breakpoint trap"), (6, "ABRT", "Aborted"),
  (7, "BUS", "Bus error"), (8, "FPE", "Floating point exception"), (9, "KILL", "Killed"),
  (10, "USR1", "User defined signal 1"), (11, "SEGV", "Segmentation fault"),
  (12, "USR2", "User defined signal 2"), (13, "PIPE", "Broken pipe"), (14, "ALRM", "Alarm clock"),
  (15, "TERM", "Terminated"), (16, "16", "Stack fault"), (17, "CHLD", "Child exited"),
  (18, "CONT", "Continued"), (19, "STOP", "Stopped (signal)"), (20, "TSTP", "Stopped"),
  (21, "TTIN", "Stopped (tty input)"), (22, "TTOU", "Stopped (tty output)"),
  (23, "URG", "Urgent I/O condition"), (24, "XCPU", "CPU time limit exceeded"),
  (25, "XFSZ", "File size limit exceeded"), (26, "VTALRM", "Virtual timer expired"),
  (27, "PROF", "Profiling timer expired"), (28, "WINCH", "Window changed"),
  (29, "IO", "I/O possible"), (30, "PWR", "Power failure"), (31, "SYS", "Bad system call")]

def firstFree : Nat := 34
def lastFree : Nat := 64

def signalName (n : Nat) : Text :=
  match signalTable.lookup n with
  | some (name, _) => name
  | none =>
    if n < firstFree then Text.ofNat n
    else if n = firstFree then "RTMIN"
    else if n = lastFree then "RTMAX"
    else if n < 50 then Text.ofString "RTMIN+" ++ Text.ofNat (n - firstFree)
    else Text.ofString "RTMAX-" ++ Text.ofNat (lastFree - n)

def signalWords? (n : Nat) : Option Text :=
  if n = 2 ∨ n = 13 then none
  else match signalTable.lookup n with
    | some (_, words) => some words
    | none => some (Text.ofString "Real-time signal " ++ Text.ofNat (n - firstFree))

/-- Signals that a program does not notice unless it asks for them. -/
def unnoticed : List Nat := [17, 18, 23, 28]

def stopping : List Nat := [19, 20, 21, 22]

def uncatchable : List Nat := [9, 19]

def upperText (t : Text) : Text := t.map fun
  | .scalar c => .scalar c.toUpper
  | c => c

def signal? (least : Nat) (t : Text) : Option Nat :=
  match Text.digits? 10 t with
  | some n => if n < signalCount then some n else none
  | none =>
    let numbers := (List.range signalCount).filter (least ≤ ·)
    numbers.find? fun n => signalName n = upperText t

end Redraft.Shell
