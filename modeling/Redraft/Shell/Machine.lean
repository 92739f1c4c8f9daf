import Redraft.Files.Read
import Redraft.Shell.Print

/-!
The state of a running shell. What all shells of one run share is the world: files, open ends and
what was printed. A shell has variables, arguments, descriptors and traps of its own.
-/
namespace Redraft.Shell

def bytewise (t : Text) : Text := (Utf8.encodeWith [0x3F] t).map fun b => byte b.toNat

def toBytes (t : Text) : Bytes := t.map fun c => c.value.toUInt8

def ofBytes (b : Bytes) : Text := b.map fun b => byte b.toNat

def pathOf (t : Text) : Path := .ofText (Utf8.decodeLossy (toBytes t))

/-- Where a descriptor leads. -/
inductive End where
  | source (number : Nat)
  | out
  | err
  | buffer (number : Nat)
  | file (l : Location)
  | directory
  | nothing

/-- What a process printed at a time on one of the two outputs. -/
structure Print where
  time : Float
  process : Nat
  isError : Bool
  text : Text

/-- A signal on its way to a process. -/
structure Sent where
  time : Float
  process : Nat
  signal : Nat

/-- A program in the background: its number, its status, the signal that ended it, and when it ended. -/
structure Job where
  number : Nat
  status : Nat
  signal : Option Nat
  ended : Float
  alone : Bool

structure World where
  tree : Tree
  sources : List (Nat × Text)
  /-- Texts collected, the last first. -/
  buffers : List (Nat × List Text)
  printed : List Print
  fresh : Nat
  clock : Float
  /-- Signals that have not been seen yet, the last first. -/
  sent : List Sent
  endings : List (Nat × Float)

/-- A world in which a process ends now; what it has started goes on unless it was `alone`. -/
def World.cutOff (process : Nat) (alone : Bool) (w : World) : World :=
  let endings := if alone
    then w.endings.map fun e => if e.1 = process then (process, w.clock) else e
    else w.endings
  { w with
    endings := endings,
    printed := w.printed.filter fun p => p.process ≠ process || p.time ≤ w.clock }

def World.latest (w : World) : Float :=
  w.endings.foldl (fun t e => if t < e.2 then e.2 else t) w.clock

structure Var where
  value : Option Text
  exported : Bool
  fixed : Bool

/-- How the flow of commands is left. -/
inductive Leave where
  | exit
  | over
  /-- The shell ends by an error, unless a command of its own takes it. -/
  | error
  | signal (number : Nat)
  /-- Out of loops, or on to the next turn of the last of them. -/
  | loops (again : Bool) (count : Nat)
  | return

structure Machine where
  world : World
  name : Text
  args : List Text
  vars : List (Text × Var)
  functions : List (Text × Script)
  documents : List (Nat × Word)
  options : Text
  traps : List (Nat × Text)
  cwd : Location
  ends : List (Nat × End)
  status : Nat
  /-- The line of the command that runs, and the one that reading has come to. -/
  line : Nat
  reached : Nat
  speaker : Option Text
  left : Option Leave
  /-- The status to end with; while a trap runs, the one from before it. -/
  asked : Option Nat
  /-- The status of the last output that was put in. -/
  putIn : Option Nat
  loops : Nat
  calls : Nat
  kept : List (Text × Option Var)
  /-- The number of this process, and of the shell that it is a part of. -/
  process : Nat
  root : Nat
  /-- The shells that wait for this one. -/
  above : List Nat
  jobs : List Job

namespace Machine

def files (m : Machine) : Files := ⟨m.world.tree, m.cwd⟩

def firstProcess : Nat := 2

def defaultPath : Text := "/usr/local/bin:/usr/bin:/bin"

def start (name : Text) (args : List Text) (files : Files) (input : Text) : Machine where
  world := ⟨files.tree, [(0, input)], [], [], 1, 0.0, [], []⟩
  name := name
  args := args
  vars := [("IFS", ⟨some " \t\n", false, false⟩), ("OPTIND", ⟨some "1", false, false⟩),
    ("PS4", ⟨some "+ ", false, false⟩), ("PATH", ⟨some defaultPath, true, false⟩),
    ("PWD", ⟨some (bytewise (Path.toText ⟨.root, files.cwd⟩)), true, false⟩)]
  functions := []
  documents := []
  options := []
  traps := []
  cwd := files.cwd
  ends := [(0, .source 0), (1, .out), (2, .err)]
  status := 0
  line := 0
  reached := 0
  speaker := none
  left := none
  asked := none
  putIn := none
  loops := 0
  calls := 0
  kept := []
  process := firstProcess
  root := firstProcess
  above := []
  jobs := []

def end? (m : Machine) (fd : Nat) : Option End := m.ends.lookup fd

def setEnd (fd : Nat) (e : Option End) (m : Machine) : Machine :=
  { m with ends := (e.map fun e => (fd, e)).toList ++ m.ends.filter (·.1 ≠ fd) }

def fresh (m : Machine) : Nat × Machine :=
  (m.world.fresh, { m with world := { m.world with fresh := m.world.fresh + 1 } })

def newSource (t : Text) (m : Machine) : End × Machine :=
  let (n, m) := m.fresh
  (.source n, { m with world := { m.world with sources := (n, t) :: m.world.sources } })

def sourceText (n : Nat) (m : Machine) : Text := (m.world.sources.lookup n).getD []

def setSource (n : Nat) (t : Text) (m : Machine) : Machine :=
  { m with world :=
    { m.world with sources := (n, t) :: m.world.sources.filter (·.1 ≠ n) } }

def input? (m : Machine) : Option Text :=
  match m.end? 0 with
  | some (.source n) => some (m.sourceText n)
  | some .nothing => some []
  | _ => none

def leaveInput (t : Text) (m : Machine) : Machine :=
  match m.end? 0 with
  | some (.source n) => m.setSource n t
  | _ => m

def addToFile (l : Location) (t : Text) (w : World) : World :=
  match w.tree.node? l with
  | some (.file old mode) => { w with tree := w.tree.put l (.file (old ++ toBytes t) mode) }
  | _ => w

def writeTo? (e : End) (process : Nat) (t : Text) (w : World) : Option World :=
  match e with
  | .source _ => none
  | .directory => none
  | .out => some { w with printed := ⟨w.clock, process, false, t⟩ :: w.printed }
  | .err => some { w with printed := ⟨w.clock, process, true, t⟩ :: w.printed }
  | .buffer n =>
    let old := (w.buffers.lookup n).getD []
    some { w with buffers := (n, t :: old) :: w.buffers.filter (·.1 ≠ n) }
  | .file l => some (addToFile l t w)
  | .nothing => some w

def write? (fd : Nat) (t : Text) (m : Machine) : Option Machine :=
  if t.isEmpty then some m
  else do
    let e ← m.end? fd
    let w ← writeTo? e m.process t m.world
    return { m with world := w }

def write (fd : Nat) (t : Text) (m : Machine) : Machine := (m.write? fd t).getD m

def collected (n : Nat) (m : Machine) : Text :=
  ((m.world.buffers.lookup n).getD []).reverse.flatten

def done (status : Nat) (m : Machine) : Machine := { m with status := status }

def report (t : Text) (m : Machine) : Machine :=
  let speaker := match m.speaker with
    | some s => s ++ Text.ofString ": "
    | none => []
  m.write 2 (m.name ++ Text.ofString ": " ++ Text.ofNat m.line ++ Text.ofString ": " ++ speaker ++ t
    ++ [Text.newline])

def complain (t : Text) (status : Nat) (m : Machine) : Machine := (m.report t).done status

def fail (t : Text) (m : Machine) : Machine :=
  { m.report t with status := 2, left := some .error }

def has (option : Char) (m : Machine) : Bool := m.options.contains (.scalar option)

def setOption (option : CodePoint) (on : Bool) (m : Machine) : Machine :=
  let others := m.options.filter (· ≠ option)
  { m with options := if on then option :: others else others }

def get? (name : Text) (m : Machine) : Option Text :=
  (m.vars.lookup name).bind (·.value)

def get (name : Text) (m : Machine) : Text := (m.get? name).getD []

def setVar (name : Text) (v : Option Var) (m : Machine) : Machine :=
  { m with vars := (v.map fun v => (name, v)).toList ++ m.vars.filter (·.1 ≠ name) }

def set? (name value : Text) (m : Machine) : Option Machine :=
  match m.vars.lookup name with
  | some v => if v.fixed then none else some (m.setVar name (some { v with value := some value }))
  | none => some (m.setVar name (some ⟨some value, m.has 'a', false⟩))

def readOnly (name : Text) : Text := name ++ Text.ofString ": is read only"

def set (name value : Text) (m : Machine) : Machine :=
  (m.set? name value).getD (m.fail (readOnly name))

def separators (m : Machine) : Text :=
  match m.vars.lookup (Text.ofString "IFS") with
  | some ⟨some t, _, _⟩ => t
  | _ => " \t\n"

def joint (m : Machine) : Text := m.separators.take 1

def isLink (t : Text) (m : Machine) : Bool :=
  match m.files.locate false (pathOf t) with
  | .ok l => match m.world.tree.node? l with
    | some (.link _) => true
    | _ => false
  | .error _ => false

def workingDir (m : Machine) : Text := bytewise (Path.toText ⟨.root, m.cwd⟩)

def shownOptions (m : Machine) : Text :=
  let letters : Text := "efIimnsxvVECabuq"
  letters.filter m.options.contains

def named? (name : Text) (m : Machine) : Option Text :=
  match Text.digits? 10 name with
  | some 0 => some m.name
  | some (k + 1) => m.args[k]?
  | none =>
    if name = Text.ofString "?" then some (Text.ofNat m.status)
    else if name = Text.ofString "#" then some (Text.ofNat m.args.length)
    else if name = Text.ofString "$" then some (Text.ofNat m.root)
    else if name = Text.ofString "!" then m.jobs.head?.map fun j => Text.ofNat j.number
    else if name = Text.ofString "-" then some m.shownOptions
    else m.get? name

/-- Why a file could not be opened. -/
inductive OpenFault where
  | missing
  | isDirectory
  | exists
  | other (e : FileError)

def endsInSlash (name : Text) : Bool := name.getLast? = some Path.slash

def openFile (name : Text) (keep mayReplace : Bool) (m : Machine) :
    Except OpenFault (End × Machine) :=
  let p := pathOf name
  if name.isEmpty then .error .missing
  else if p.toText = Text.ofString "/dev/null" then .ok (.nothing, m)
  else if p.toText = Text.ofString "/dev/stdout" then .ok ((m.end? 1).getD .nothing, m)
  else if p.toText = Text.ofString "/dev/stderr" then .ok ((m.end? 2).getD .nothing, m)
  else
    let put (l : Location) (b : Bytes) (mode : Nat) : Machine :=
      { m with world := { m.world with tree := m.world.tree.put l (.file b mode) } }
    match m.files.locate true p with
    | .ok l =>
      match m.world.tree.node? l with
      | some (.dir _) => .error .isDirectory
      | some (.file b mode) =>
        if endsInSlash name then .error .missing
        else if keep then .ok (.file l, m)
        else if mayReplace then .ok (.file l, put l [] mode)
        else if b.isEmpty then .ok (.file l, m) else .error .exists
      | _ => .error .missing
    | .error .notFound =>
      match m.files.locate true p.parent with
      | .ok dir =>
        if m.world.tree.isDir dir && endsInSlash name then .error .isDirectory
        else if m.world.tree.isDir dir && !p.name.isEmpty then
          .ok (.file (dir ++ [p.name]), put (dir ++ [p.name]) [] 0o644)
        else .error .missing
      | .error _ => .error .missing
    | .error .notDirectory => .error .missing
    | .error e => .error (.other e)

def readFile (name : Text) (m : Machine) : Except OpenFault Text :=
  let p := pathOf name
  if name.isEmpty then .error .missing
  else if p.toText = Text.ofString "/dev/null" then .ok []
  else match m.files.stat p with
    | .ok (.file b _) => if endsInSlash name then .error .missing else .ok (ofBytes b)
    | .ok (.dir _) => .error .isDirectory
    | .ok (.link _) => .error (.other .tooManyLinks)
    | .error .notFound => .error .missing
    | .error .notDirectory => .error .missing
    | .error e => .error (.other e)

end Machine

end Redraft.Shell
