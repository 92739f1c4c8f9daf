import Redraft.Shell.Field
import Redraft.Shell.Grammar
import Redraft.Shell.Program
import Redraft.Shell.Signal

/-!
Commands of the shell itself that run no other commands: they print, test, set variables and options,
send signals, or change the flow.
-/
namespace Redraft.Shell

def requoted : Nat → Text → Text
  | 0, _ => []
  | fuel + 1, t =>
    let isQuote (c : CodePoint) : Bool := c = .scalar '\''
    let run := t.takeWhile fun c => !isQuote c
    let quotes := (t.drop run.length).takeWhile isQuote
    let rest := t.drop (run.length + quotes.length)
    let shown := [.scalar '\''] ++ run ++ [.scalar '\'']
    if quotes.isEmpty then shown
    else
      let shown := shown ++ inQuotes quotes
      if rest.isEmpty then shown else shown ++ requoted fuel rest

namespace Machine

def print (t : Text) (m : Machine) : Machine :=
  match m.write? 1 t with
  | some m => m.done 0
  | none => m.complain (m.speaker.getD [] ++ Text.ofString ": I/O error") 1

def withNumber (t : Text) (use : Nat → Machine) (m : Machine) : Machine :=
  match Text.digits? 10 t with
  | some n => use n
  | none => m.fail (illegalNumber t)

def withOptions (letters withArgument : List Char) (args : List Text)
    (use : List Given → List Text → Machine) (m : Machine) : Machine :=
  match optionsOf letters withArgument (optionSteps args) args with
  | .ok (given, args) => use given args
  | .error t => m.fail t

def exitCommand (args : List Text) (m : Machine) : Machine :=
  match args with
  | [] => { m with left := some .exit }
  | t :: _ => m.withNumber t fun n => { m with asked := some n, left := some .exit }

def returnCommand (args : List Text) (m : Machine) : Machine :=
  match args with
  | [] => { m with left := some .return }
  | t :: _ => m.withNumber t fun n => { m with status := n, left := some .return }

def leaveLoops (again : Bool) (args : List Text) (m : Machine) : Machine :=
  let t := args.head?.getD "1"
  m.withNumber t fun n =>
    if n = 0 then m.fail (illegalNumber t)
    else
      let n := min n m.loops
      if n = 0 then m.done 0 else { m.done 0 with left := some (.loops again n) }

def shift (args : List Text) (m : Machine) : Machine :=
  m.withNumber (args.head?.getD "1") fun n =>
    if m.args.length < n then m.fail "can't shift that many"
    else { m.done 0 with args := m.args.drop n }

def listed (lead : Text) (holds : Var → Bool) (m : Machine) : Text :=
  let lead := if lead.isEmpty then [] else lead ++ [.scalar ' ']
  let line (v : Text × Var) : Text :=
    let value := match v.2.value with
      | some t => .scalar '=' :: requoted (t.length + 1) t
      | none => []
    lead ++ v.1 ++ value ++ [Text.newline]
  let shown := (m.vars.filter fun v => holds v.2).mergeSort fun a b => Text.le a.1 b.1
  (shown.map line).flatten

def setCommand (args : List Text) (m : Machine) : Machine :=
  if args.isEmpty then m.print (m.listed [] fun v => v.value.isSome)
  else match m.chosen false args with
    | .error t => m.fail t
    | .ok c =>
      let m := if c.shown.isEmpty then c.machine.done 0 else c.machine.print c.shown
      if c.ended || !c.rest.isEmpty then { m with args := c.rest } else m

def withName (t : Text) (use : Machine → Machine) (m : Machine) : Machine :=
  let name := t.takeWhile (· ≠ .scalar '=')
  if m.left.isSome then m
  else if isName name then use m
  else m.fail (name ++ Text.ofString ": bad variable name")

def unset (args : List Text) (m : Machine) : Machine :=
  m.withOptions ['v', 'f'] [] args fun given names =>
    let functions (m : Machine) : Machine :=
      { m with functions := m.functions.filter fun f => !names.contains f.1 }
    let values (m : Machine) : Machine :=
      names.foldl (fun m name => m.withName name fun m =>
        match m.vars.lookup name with
        | some v => if v.fixed then m.fail (readOnly name) else m.setVar name none
        | none => m) m
    if (given.getLast?.map (·.1)) = some 'f' then functions (m.done 0)
    else values (m.done 0)

def declareVar (change : Var → Var) (t : Text) (m : Machine) : Machine :=
  m.withName t fun m =>
    let (name, value?) := match Text.breakOn? "=" t with
      | some (name, value) => (name, some value)
      | none => (t, none)
    let m := match value? with
      | some value => m.set name value
      | none => m
    if m.left.isSome then m
    else m.setVar name (some (change ((m.vars.lookup name).getD ⟨none, false, false⟩)))

def markVars (lead : Text) (change : Var → Var) (holds : Var → Bool) (args : List Text)
    (m : Machine) : Machine :=
  m.withOptions ['p'] [] args fun given names =>
    if isGiven 'p' given || names.isEmpty then m.print (m.listed lead holds)
    else names.foldl (fun m t => m.declareVar change t) (m.done 0)

def localCommand (args : List Text) (m : Machine) : Machine :=
  if m.calls = 0 then m.fail "not in a function"
  else
    let keep (m : Machine) (t : Text) : Machine :=
      let name := t.takeWhile (· ≠ .scalar '=')
      let m := { m with kept := (name, m.vars.lookup name) :: m.kept }
      m.declareVar (fun v => v) t
    (args.filter (· ≠ Text.ofString "-")).foldl keep (m.done 0)

/-- A line of the input as atoms, whether it has ended, and what is left. A backslash takes the meaning
from the next character, and joins lines. -/
def inputLine (raw : Bool) : Nat → Text → List Atom × Bool × Text
  | 0, t => ([], false, t)
  | _ + 1, [] => ([], false, [])
  | fuel + 1, c :: rest =>
    let more (front : List Atom) (rest : Text) : List Atom × Bool × Text :=
      let (atoms, ended, after) := inputLine raw fuel rest
      (front ++ atoms, ended, after)
    if c = Text.newline then ([], true, rest)
    else if c.value = 0 then more [] rest
    else if c = .scalar '\\' ∧ !raw then
      match rest.dropWhile fun d => d.value = 0 with
      | [] => ([], false, [])
      | d :: rest => if d = Text.newline then more [.gap] rest else more [.char d true, .gap] rest
    else more [.loose c] rest

def readCommand (args : List Text) (m : Machine) : Machine :=
  m.withOptions ['r'] ['p'] args fun given names =>
    if names.isEmpty then m.fail "arg count"
    else
      let text := m.input?.getD []
      let (atoms, ended, rest) := inputLine (isGiven 'r' given) (text.length + 1) text
      let fields := split m.separators (some names.length) atoms
      let values := fields.map fun f => f.map (·.1)
      let pairs := names.zip (values ++ List.replicate names.length [])
      let m := (m.leaveInput rest).done (if ended then 0 else 1)
      pairs.foldl (fun m (name, value) => m.withName name fun m => m.set name value) m

def changeDirectory (args : List Text) (m : Machine) : Machine :=
  m.withOptions ['L', 'P'] [] args fun _ args =>
    let back := args.head? = some (Text.ofString "-")
    let target : Text :=
      if back then m.get "OLDPWD" else args.head?.getD (m.get "HOME")
    match m.files.locate true (pathOf target) with
    | .ok l =>
      if m.world.tree.isDir l then
        let before := m.workingDir
        let m := { m with cwd := l }
        let m := (m.set "OLDPWD" before).set "PWD" m.workingDir
        if back then m.print (m.workingDir ++ [Text.newline]) else m.done 0
      else m.fail (Text.ofString "can't cd to " ++ target)
    | .error _ => m.fail (Text.ofString "can't cd to " ++ target)

/-- What becomes of a process that a signal is sent to. Nothing if there is no such process. -/
def sendSignal? (n process : Nat) (m : Machine) : Option Machine :=
  let send (m : Machine) : Machine :=
    if n = 0 then m
    else { m with world := { m.world with sent := ⟨m.world.clock, process, n⟩ :: m.world.sent } }
  if process = m.process ∨ m.above.contains process then some (send m)
  else match m.jobs.find? fun j => j.number = process with
    | none => none
    | some j =>
      if n = 0 ∨ unnoticed.contains n then some m
      else if j.ended ≤ m.world.clock then none
      else
        let clock := m.world.clock
        let stopped : Job := { j with status := 128 + n, signal := some n, ended := clock }
        let jobs := m.jobs.map fun k => if k.number = process then stopped else k
        some { m with jobs := jobs, world := m.world.cutOff process j.alone }

def killUsage : Text :=
  Text.ofString "Usage: kill [-s sigspec | -signum | -sigspec] [pid | job]... or\n"
    ++ Text.ofString "kill -l [exitstatus]"

def sendAll (n : Nat) : List Text → (failed : Bool) → Machine → Machine
  | [], failed, m => m.done (if failed then 1 else 0)
  | t :: rest, failed, m =>
    match Text.digits? 10 t with
    | none => m.fail (illegalNumber t)
    | some process =>
      match m.sendSignal? n process with
      | some m => sendAll n rest failed m
      | none => sendAll n rest true (m.report "No such process\n")

def listSignals (args : List Text) (m : Machine) : Machine :=
  match args with
  | [] =>
    let names := (List.range signalCount).map fun n => if n = 0 then Text.ofNat 0 else signalName n
    m.print (names.map (· ++ [Text.newline])).flatten
  | t :: _ => m.withNumber t fun n =>
    let k := if 128 < n then n - 128 else n
    if 0 < k ∧ k < signalCount then m.print (signalName k ++ [Text.newline])
    else m.fail (Text.ofString "invalid signal number or exit status: " ++ t)

def killCommand (args : List Text) (m : Machine) : Machine :=
  match args with
  | [] => m.fail killUsage
  | first :: rest =>
    let toAll (n : Nat) (targets : List Text) : Machine :=
      if targets.isEmpty then m.fail killUsage else sendAll n targets false m
    match first with
    | .scalar '-' :: name =>
      match signal? 1 name with
      | some n => toAll n rest
      | none => m.withOptions ['l'] ['s'] args fun given targets =>
        match given.find? (·.1 = 's') with
        | some (_, name) =>
          match signal? 1 name with
          | some n => toAll n targets
          | none => m.fail (Text.ofString "invalid signal number or name: " ++ name)
        | none => if isGiven 'l' given then m.listSignals targets else toAll 15 targets
    | _ => toAll 15 args

def setTraps (action : Option Text) : List Text → Machine → Machine
  | [], m => m.done 0
  | t :: rest, m =>
    match signal? 0 t with
    | some n =>
      let others := m.traps.filter (·.1 ≠ n)
      setTraps action rest { m with traps := (action.map fun a => (n, a)).toList ++ others }
    | none => m.say (Text.ofString "trap: " ++ t ++ Text.ofString ": bad trap") 1

def trapList (m : Machine) : Text :=
  let line (t : Nat × Text) : Text :=
    Text.ofString "trap -- " ++ requoted (t.2.length + 1) t.2 ++ .scalar ' ' :: signalName t.1
      ++ [Text.newline]
  ((m.traps.mergeSort fun a b => a.1 ≤ b.1).map line).flatten

def trapCommand (args : List Text) (m : Machine) : Machine :=
  m.withOptions [] [] args fun _ args =>
    match args with
    | [] => m.print m.trapList
    | [_] => m.setTraps none args
    | action :: names =>
      if (signal? 0 action).isSome then m.setTraps none args
      else m.setTraps (if action = Text.ofString "-" then none else some action) names

def wait (args : List Text) (m : Machine) : Machine :=
  let until' (time : Float) (m : Machine) : Machine :=
    if m.world.clock < time then { m with world := { m.world with clock := time } } else m
  let one (m : Machine) (t : Text) : Machine :=
    if m.left.isSome then m
    else m.withNumber t fun n =>
      match m.jobs.find? fun j => j.number = n with
      | none => m.done 127
      | some j =>
        let m := until' j.ended m
        match j.signal.bind signalWords? with
        | some words => m.say words j.status
        | none => m.done j.status
  m.withOptions [] [] args fun _ args =>
    if args.isEmpty then (m.jobs.foldl (fun m j => until' j.ended m) m).done 0
    else args.foldl one m

def umask (args : List Text) (m : Machine) : Machine :=
  m.withOptions ['S'] [] args fun given args =>
    if args.isEmpty then m.print (if isGiven 'S' given then "u=rwx,g=rx,o=rx\n" else "0022\n")
    else m.done 0

def testCommand (args : List Text) (m : Machine) : Machine :=
  match condition m 3 args with
  | .ok b => m.done (if b then 0 else 1)
  | .error t => m.fail t

def bracket (args : List Text) (m : Machine) : Machine :=
  if args.getLast?.any fun a => a.head? = some (.scalar ']') then m.testCommand args.dropLast
  else m.fail "missing ]"

def format (args : List Text) (m : Machine) : Machine :=
  m.withOptions [] [] args fun _ args =>
    match args with
    | [] => m.fail "usage: printf format [arg ...]"
    | format :: args =>
      let p := formatted format args
      let reported := p.complaints.foldl (fun m t => m.report t) m
      match p.fatal with
      | some t => (reported.fail t).write 1 p.out
      | none =>
        let printed := reported.print p.out
        if p.complaints.isEmpty then printed else printed.done 1

end Machine

open Machine

def builtins : List (String × (List Text → Machine → Machine)) := [
  (":", fun _ m => m.done 0), ("true", fun _ m => m.done 0), ("false", fun _ m => m.done 1),
  ("echo", fun args m => m.print (echoed args)), ("printf", format), ("test", testCommand),
  ("[", bracket), ("pwd", fun _ m => m.print (m.workingDir ++ [Text.newline])),
  ("cd", changeDirectory), ("chdir", changeDirectory), ("exit", exitCommand),
  ("return", returnCommand), ("break", leaveLoops false), ("continue", leaveLoops true),
  ("shift", shift), ("set", setCommand), ("unset", unset),
  ("export", markVars "export" (fun v => { v with exported := true }) (·.exported)),
  ("readonly", markVars "readonly" (fun v => { v with fixed := true }) (·.fixed)),
  ("local", localCommand), ("read", readCommand), ("kill", killCommand), ("trap", trapCommand),
  ("wait", wait), ("umask", umask), ("hash", fun _ m => m.done 0), ("jobs", fun _ m => m.done 0),
  ("times", fun _ m => m.print "0m0.000000s 0m0.000000s\n0m0.000000s 0m0.000000s\n")]

def runners : List Text := [".", "command", "eval", "exec", "type"]

def builtin? (name : Text) : Option (List Text → Machine → Machine) :=
  (builtins.find? fun (n, _) => Text.ofString n = name).map (·.2)

def isBuiltin (name : Text) : Bool := (builtin? name).isSome || runners.contains name

def isSpecial (name : Text) : Bool :=
  specialCommands.contains name || name = Text.ofString "local"

def assigners : List Text := ["export", "readonly", "local"]

end Redraft.Shell
