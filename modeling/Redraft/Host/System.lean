import Redraft.Host.Basic
import Redraft.Shell.Run

/-!
A host with a shell and a few programs. A command is found by its name among the programs, or by its
path, and is then run; it is stopped when its time is over.
-/
namespace Redraft

namespace Host

open Shell

def find (m : Machine) (name : Text) : Except FileError Target :=
  let bytes := bytewise name
  if !name.contains Path.slash ∧ (name.isEmpty ∨ name = dot ∨ name = dotDot) then
    .error .permissionDenied
  else if !name.contains Path.slash ∧ longestName < byteCount name then .error .nameTooLong
  else match m.target bytes with
    | .fault .. =>
      if !name.contains Path.slash then .error .notFound
      else match m.files.stat (.ofText name) with
        | .error e => .error e
        | .ok (.file _ mode) =>
          if mode &&& 0o111 = 0 then .error .permissionDenied else .error .notFound
        | .ok _ => .error .permissionDenied
    | .script _ none => .error .badFormat
    | t => .ok t

def isOver (elapsed : Float) : Seconds → Bool
  | .whole n => Float.ofInt n ≤ elapsed
  | .real x => x ≤ elapsed

def outputOf (m : Machine) : Output :=
  let printed := m.world.printed.reverse.mergeSort fun a b => a.time ≤ b.time
  let text (isError : Bool) : Text :=
    let bytes := (printed.filter (·.isError == isError)).flatMap fun p => toBytes p.text
    Text.unifyNewlines (Utf8.decodeLossy bytes)
  let code : Int := match m.left with
    | some (.signal n) => -(n : Int)
    | _ => m.status % 256
  ⟨code, text false, text true⟩

def attempt (f : Files) (c : Command) : Ending :=
  let name := bytewise c.program
  let m : Machine := .start name [] f (bytewise (c.input.getD []))
  match find m c.program with
  | .error e => .refused e
  | .ok t =>
    let ended := launch steps t name (c.argv.tail.map bytewise) m
    if c.timeout.any (isOver ended.world.latest) then .overdue else .exited (outputOf ended)

/-- The host with these programs; it keeps nothing from one command to the next. -/
def system (room : Room) : Host Unit := .ofSystem room fun f c _ => (attempt f c, ())

end Host

end Redraft
