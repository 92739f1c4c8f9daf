import Redraft.Shell.Builtin
import Redraft.Shell.Names

/-!
Processes: a shell that is a part of another one, what it leaves when it ends, and what a name runs.
-/
namespace Redraft.Shell

/-- What a name or a path runs. -/
inductive Target where
  | program (name : Text)
  | shell
  /-- A file, run by a program with arguments in front of its own; without one, by a shell. -/
  | script (path : Text) (runner : Option (Text × List Text))
  | fault (reason : Text) (status : Nat)

namespace Machine

/-- A shell of its own that goes on from this one; it has only those traps that ignore a signal. -/
def enter (m : Machine) : Machine :=
  let (n, m) := m.fresh
  { m with
    process := firstProcess + n, above := m.process :: m.above, left := none, asked := none,
    reached := 1, jobs := [], traps := m.traps.filter (·.2.isEmpty) }

def reap (signal : Nat) (m : Machine) : Machine :=
  match signalWords? signal with
  | some words => m.say words (128 + signal)
  | none => m.done (128 + signal)

def fatal? (m : Machine) : Option Nat :=
  let ends (s : Sent) : Bool :=
    s.process = m.process && s.time ≤ m.world.clock && !unnoticed.contains s.signal
      && !stopping.contains s.signal
      && (uncatchable.contains s.signal || (m.traps.lookup s.signal).isNone)
  (m.world.sent.reverse.find? ends).map (·.signal)

/-- What a shell that has ended leaves to the one that waited for it, unless that has ended meanwhile. -/
def rejoin (outer inner : Machine) : Machine :=
  let outer := { outer with world := inner.world }
  match outer.fatal?, inner.left with
  | some n, _ => { outer with left := some (.signal n) }
  | none, some (.signal n) => outer.reap n
  | none, _ => outer.done (inner.status % 256)

def endAs (outer inner : Machine) : Machine :=
  let left := match inner.left with
    | some (.signal n) => Leave.signal n
    | _ => .over
  { outer with world := inner.world, status := inner.status % 256, left := some left, traps := [] }

def searchPath (m : Machine) : List Text :=
  let path := match m.vars.lookup (Text.ofString "PATH") with
    | some v => v.value.getD []
    | none => []
  Text.split (.scalar ':') path

def runner? (content : Text) : Option (Text × List Text) :=
  let line := content.takeWhile (· ≠ Text.newline)
  (Text.dropStart? "#!" line).bind fun t =>
    let isBlank (c : CodePoint) : Bool := isBlankChar c
    let t := ((t.dropWhile isBlank).reverse.dropWhile isBlank).reverse
    let program := t.takeWhile fun c => !isBlank c
    let arg := (t.drop program.length).dropWhile isBlank
    if program.isEmpty then none else some (program, if arg.isEmpty then [] else [arg])

def denied : Text := "Permission denied"

def targetAt (path : Text) (m : Machine) : Target :=
  match programAt? path with
  | some name => if name = shellName then .shell else .program name
  | none =>
    match m.files.stat (pathOf path) with
    | .ok (.file b mode) =>
      if mode &&& 0o111 = 0 then .fault denied 126
      else match runner? (ofBytes b) with
        | some (program, args) =>
          if (programAt? program).isSome then .script path (some (program, args))
          else .fault "not found" 127
        | none => .script path none
    | .ok _ => .fault denied 126
    | .error .notFound => .fault "not found" 127
    | .error .notDirectory => .fault "not found" 127
    | .error .permissionDenied => .fault denied 126
    | .error e => .fault (Text.ofString e.description) 127

def found? (name : Text) (m : Machine) : Option Text :=
  if name.contains Path.slash then some name
  else
    let paths := m.searchPath.map fun d => if d.isEmpty then name else d ++ Path.slash :: name
    paths.find? fun p =>
      match m.targetAt p with
      | .fault .. => false
      | _ => !name.isEmpty

def target (name : Text) (m : Machine) : Target :=
  match m.found? name with
  | some path => m.targetAt path
  | none =>
    -- these two are in every directory
    if name.isEmpty ∨ name = dotDot then .fault denied 127 else .fault "not found" 127

def described? (brief : Bool) (name : Text) (m : Machine) : Option Text :=
  let told (sentence : String) : Option Text :=
    some (if brief then name else name ++ Text.ofString sentence)
  if keywords.contains name then told " is a shell keyword"
  else if (m.functions.lookup name).isSome then told " is a shell function"
  else if isSpecial name && isBuiltin name then told " is a special shell builtin"
  else if isBuiltin name then told " is a shell builtin"
  else match m.target name, m.found? name with
    | .fault .., _ => none
    | _, some path => some (if brief then path else name ++ Text.ofString " is " ++ path)
    | _, none => none

def describeAll : List Text → (failed : Bool) → Machine → Machine
  | [], failed, m => m.done (if failed then 127 else 0)
  | name :: rest, failed, m =>
    match m.described? false name with
    | some t => describeAll rest failed (m.print (t ++ [Text.newline]))
    | none =>
      describeAll rest true (m.print (name ++ Text.ofString ": not found\n"))

def commandCommand (args : List Text) (m : Machine) : Machine :=
  m.withOptions ['p', 'v', 'V'] [] args fun given args =>
    match args with
    | [] => m.done 0
    | name :: _ =>
      if isGiven 'V' given then m.describeAll [name] false
      else match m.described? true name with
        | some t => m.print (t ++ [Text.newline])
        | none => m.done 127

def sourceFile? (name : Text) (m : Machine) : Option Text :=
  if name.contains Path.slash then some name
  else
    let paths := m.searchPath.map fun d => d ++ Path.slash :: name
    paths.find? fun p => match m.files.stat (pathOf p) with
      | .ok (.file ..) => true
      | _ => false

end Machine

end Redraft.Shell
