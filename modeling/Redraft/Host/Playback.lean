import Redraft.Host.Basic

/-!
A host that plays back results, one for each command, and notes the commands.
-/
namespace Redraft

/-- What becomes of one command. -/
inductive Take where
  | output (o : Output)
  | timeout
  | missing

structure Playback where
  takes : List Take
  /-- The commands so far, each with the files as they were then; the last one first. -/
  calls : List (Command × Files) := []

namespace Playback

def result (c : Command) : Take → Except Failure Output
  | .output o => .ok o
  | .timeout => .error (.command (.timedOut "scripted timeout"))
  | .missing => .error (.command (.missing c.program))

def step (f : Files) (c : Command) (p : Playback) : Except Failure Output × Playback :=
  let calls := (c, f) :: p.calls
  match p.takes with
  | [] => (.error (.command (.notStarted "no scripted result")), ⟨[], calls⟩)
  | take :: rest => (result c take, ⟨rest, calls⟩)

end Playback

def Host.playback (room : Room) : Host Playback where
  run := Playback.step
  room := room

end Redraft
