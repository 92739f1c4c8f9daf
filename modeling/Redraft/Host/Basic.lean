import Redraft.Command
import Redraft.Files.Write

/-!
Hosts: what a run finds on the machine that it runs on. A host runs commands and keeps a state of its
own from one command to the next; it sees the files and does not change them, but it may refuse what
is to be written. A system ends each attempt to run a command in some way, and the host of the system
tells what that means for the command.
-/
namespace Redraft

structure Host (σ : Type) where
  run : Files → Command → σ → Except Failure Output × σ
  room : Room
  refuses : Files → Path → Text → σ → Refusals := fun _ _ _ _ => {}

namespace CommandError

def missing (program : Text) : CommandError :=
  .notStarted (Text.ofString "Command not found: " ++ program)

end CommandError

/-- How a system ends an attempt to run a command. -/
inductive Ending where
  | exited (o : Output)
  | overdue
  | refused (e : FileError)

namespace Command

def timeoutMessage (c : Command) : Text :=
  Text.ofString "Command timed out after " ++ Seconds.limitText c.timeout ++ Text.ofString "s: "
    ++ Text.join " " c.argv

/-- Why there is nothing to try, if there is not: an argument that cannot be one, or no program. -/
def fault? (c : Command) : Option Failure :=
  match c.argv.findSome? nameFault? with
  | some fault => some fault
  | none => if c.argv.isEmpty then some .emptyCommand else none

def waitFault? (c : Command) : Option Text := c.timeout.bind Seconds.waitFault?

/-- What an attempt comes to. A program that is not there and a time that is over are errors of the
command; whatever else keeps the system from starting the program is a failure of its own. -/
def result (c : Command) : Ending → Except Failure Output
  | .refused .notFound => .error (.command (.missing c.program))
  | .refused e => .error (.file e c.program)
  | .overdue => match c.waitFault? with
    | some reason => .error (.longTime reason)
    | none => .error (.command (.timedOut c.timeoutMessage))
  | .exited o => match c.waitFault? with
    | some reason => .error (.longTime reason)
    | none => .ok o

end Command

/-- The host of a system that ends each attempt in some way. -/
def Host.ofSystem {σ : Type} (room : Room) (attempt : Files → Command → σ → Ending × σ) :
    Host σ where
  room := room
  run f c s := match c.fault? with
    | some fault => (.error fault, s)
    | none => let (x, s) := attempt f c s; (c.result x, s)

end Redraft
