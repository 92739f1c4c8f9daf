import Redraft.Shell.Process

/-!
Running scripts. Values are put into words, redirections open files, and commands run one after
another on one machine. A script that goes on without end is stopped when its steps are used up; it
has then taken longer than any time that is given to it.
-/
namespace Redraft.Shell

open Machine

/-- How a script is run. -/
structure Mode where
  /-- Its outcome is only asked for, so that a failure does not end the shell. -/
  tested : Bool
  /-- Nothing follows it in this shell. -/
  last : Bool

/-- What becomes of the text of a word outside quotes. -/
structure Setting where
  split : Bool
  loose : Bool

/-- A redirection with its values put in. -/
inductive Opening where
  | file (fd : Nat) (way : Way) (target : Text)
  | copy (fd : Nat) (source : Option Nat)
  | text (fd : Nat) (t : Text)
  | broken

def deepest : Nat := 1000

/-- The machine of a script that does not end. -/
def endless (m : Machine) : Machine :=
  { m with world := { m.world with clock := 1.0 / 0.0 }, left := some .over }

/-- The home directory for a word that begins with a tilde; `colons` if each part of a list may. -/
def withHome (home : Option Text) (colons : Bool) (w : Word) : Word :=
  let swap (endsWord : Bool) (t : Text) : Option (Text × Text) :=
    match home, t with
    | some h, .scalar '~' :: rest =>
      match rest with
      | [] => if endsWord then some (h, []) else none
      | c :: _ => if c = Path.slash || (colons && c = .scalar ':') then some (h, rest) else none
    | _, _ => none
  let parts (endsWord : Bool) (t : Text) : Word :=
    match swap endsWord t with
    | some (h, rest) => if rest.isEmpty then [.text h true] else [.text h true, .text rest false]
    | none => [.text t false]
  match w with
  | .text t false :: more =>
    if colons && home.isSome then
      let pieces := Text.split (.scalar ':') t
      let last := pieces.length - 1
      pieces.zipIdx.flatMap (fun (piece, i) =>
        let shown := parts (i < last || more.isEmpty) piece
        if i = 0 then shown else .text ":" false :: shown) ++ more
    else parts more.isEmpty t ++ more
  | _ => w

def joinAtoms (sep : List Atom) (all : List (List Atom)) : List Atom :=
  match all with
  | [] => []
  | first :: rest => rest.foldl (fun done a => done ++ sep ++ a) first

/-- What stands between the arguments where all are put in as one text. Where they are fields of their
own, that is the mark between arguments. -/
def between (s : Setting) (all quoted : Bool) (m : Machine) : Text :=
  let isUnset := (m.vars.lookup (Text.ofString "IFS")).isNone
  if s.split && (all || !quoted) then if !quoted && isUnset then " " else [byte 0]
  else m.joint

def argumentAtoms (s : Setting) (all quoted : Bool) (t : Text) (m : Machine) : List Atom :=
  if all && quoted && s.split then
    if m.args.isEmpty then []
    else joinAtoms [.cut] ((Text.split (byte 0) t).map fun a => .edge :: Atom.chars true a)
  else if quoted then Atom.chars true t
  else Atom.looses t

def valueAtoms (quoted : Bool) (t : Text) : List Atom :=
  if quoted then Atom.chars true t else Atom.looses t

def notSet (name : Text) : Text := name ++ Text.ofString ": parameter not set"

def nextDocument (m : Machine) : Nat := m.documents.foldl (fun n d => max n (d.1 + 1)) 0

def trimOutput (t : Text) : Text :=
  ((t.reverse.dropWhile (· = Text.newline)).reverse).filter (·.value ≠ 0)

def badDescriptor (m : Machine) : Machine :=
  { m with line := m.reached }.fail "Syntax error: Bad fd number"

def openAll : List Opening → Machine → Bool × Machine
  | [], m => (true, m)
  | o :: rest, m =>
    let cannot (verb : String) (target reason : Text) : Bool × Machine :=
      (false, m.complain (Text.ofString "cannot " ++ Text.ofString verb ++ target
        ++ Text.ofString ": " ++ reason) 2)
    match o with
    | .broken => (false, m)
    | .text fd t =>
      let (e, m) := m.newSource t
      openAll rest (m.setEnd fd (some e))
    | .copy fd none => openAll rest (m.setEnd fd none)
    | .copy fd (some source) =>
      match m.end? source with
      | some e => openAll rest (m.setEnd fd (some e))
      | none =>
        (false, (m.setEnd fd none).complain
          (Text.ofNat source ++ Text.ofString ": Bad file descriptor") 2)
    | .file fd .read target =>
      match m.readFile target with
      | .ok t =>
        let (e, m) := m.newSource t
        openAll rest (m.setEnd fd (some e))
      | .error .isDirectory => openAll rest (m.setEnd fd (some .directory))
      | .error (.other e) => cannot "open " target e.description
      | .error _ => cannot "open " target "No such file"
    | .file fd way target =>
      let keep := way = .append || way = .both
      match m.openFile target keep (way = .replace || !m.has 'C') with
      | .ok (e, m) =>
        match way, m.readFile target with
        | .both, .ok t =>
          let (e, m) := m.newSource t
          openAll rest (m.setEnd fd (some e))
        | _, _ => openAll rest (m.setEnd fd (some e))
      | .error .isDirectory =>
        cannot (if way = .write && m.has 'C' then "open " else "create ") target "Is a directory"
      | .error .exists => cannot "create " target "File exists"
      | .error (.other e) => cannot "create " target e.description
      | .error .missing => cannot "create " target "Directory nonexistent"

/-- The words of a simple command behind `command`, and whether it was there. -/
def stripCommand : Nat → List Text → Bool × List Text
  | 0, ws => (false, ws)
  | fuel + 1, ws =>
    match ws with
    | first :: rest =>
      if first ≠ Text.ofString "command" then (false, ws)
      else
        let options := rest.takeWhile (· = Text.ofString "-p")
        let rest := rest.drop options.length
        match rest with
        | [] => (false, ws)
        | w :: more =>
          if w = Text.ofString "--" then
            if more.isEmpty then (false, ws) else (true, (stripCommand fuel more).2)
          else if 1 < w.length ∧ w.head? = some (.scalar '-') then (false, ws)
          else (true, (stripCommand fuel rest).2)
    | [] => (false, ws)

/-- Leaves one loop, or a part of the flow that is more than a loop. Tells whether the loop goes on. -/
def turn (m : Machine) : Bool × Machine :=
  match m.left with
  | none => (true, m)
  | some (.loops again n) =>
    if n ≤ 1 then (again, { m with left := none })
    else (false, { m with left := some (.loops again (n - 1)) })
  | some _ => (false, m)

/-- Gives back variables that were kept, the last kept first. -/
def giveBack (m : Machine) : Machine :=
  m.kept.foldl (fun m (name, v) => m.setVar name v) m

def keep (name : Text) (m : Machine) : Machine :=
  { m with kept := (name, m.vars.lookup name) :: m.kept }

def setExported (name : Text) (m : Machine) : Machine :=
  match m.vars.lookup name with
  | some v => m.setVar name (some { v with exported := true })
  | none => m

def due (m : Machine) : List Nat × Machine :=
  let isDue (s : Sent) : Bool := s.process = m.process && s.time ≤ m.world.clock
  let (now, later) := m.world.sent.partition isDue
  (now.reverse.map (·.signal), { m with world := { m.world with sent := later } })

/-- A shell as it starts: it has the exported variables of another one. -/
def fresh (name : Text) (m : Machine) : Machine :=
  let exported := m.vars.filter fun v => v.2.exported
  let own := (start name [] m.files []).vars.filter fun v => (exported.lookup v.1).isNone
  { m with
    name := name, args := [], vars := exported ++ own, functions := [], documents := [],
    options := [], status := 0, line := 0, reached := 0,
    speaker := none, left := none, asked := none,
    putIn := none, loops := 0, calls := 0, kept := [], root := m.process, jobs := [] }

mutual

def expand (s : Setting) : Nat → Word → Machine → List Atom × Machine
  | 0, _, m => ([], endless m)
  | _ + 1, [], m => ([], m)
  | fuel + 1, p :: rest, m =>
    if m.left.isSome then ([], m)
    else
      let (front, m) := expandPart s fuel p m
      let (back, m) := expand s fuel rest m
      (front ++ back, m)

def expandPart (s : Setting) : Nat → Part → Machine → List Atom × Machine
  | 0, _, m => ([], endless m)
  | fuel + 1, p, m =>
    match p with
    | .text t true => (if t.isEmpty then [.edge] else Atom.chars true t, m)
    | .text t false => (if s.loose then Atom.looses t else Atom.chars false t, m)
    | .output c quoted =>
      let (t, m) := output fuel c m
      (valueAtoms quoted t, m)
    | .sum w quoted =>
      let (t, m) := plainText fuel w m
      if m.left.isSome then ([], m)
      else match sumOf (fun name => .ok (m.named? name)) t with
        | .ok (n, sets) =>
          let m := sets.foldl (fun m (name, n) => if m.left.isSome then m else m.set name (Text.ofInt n)) m
          (valueAtoms quoted (Text.ofInt n), m)
        | .error e => ([], m.fail (e.message t))
    | .param name use w quoted => expandParam s fuel name use w quoted m

def expandParam (s : Setting) : Nat → Text → Use → Word → Bool → Machine → List Atom × Machine
  | 0, _, _, _, _, m => ([], endless m)
  | fuel + 1, name, use, w, quoted, m =>
    let all := name = Text.ofString "@"
    let isList := all || name = Text.ofString "*"
    let text? := if isList then some (Text.join (between s all quoted m) m.args) else m.named? name
    let atomsOf (t : Text) : List Atom :=
      if isList then argumentAtoms s all quoted t m else valueAtoms quoted t
    let atoms := atomsOf (text?.getD [])
    let missing (colon : Bool) : Bool := match text? with
      | none => true
      | some t => colon && t.isEmpty
    let word (m : Machine) : List Atom × Machine :=
      expand { s with loose := true } fuel (if quoted then w else withHome (m.get? "HOME") false w) m
    if text?.isNone && m.has 'u' && (match use with
        | .plain => true
        | .length => true
        | .dropStart _ => true
        | .dropEnd _ => true
        | _ => false)
    then ([], m.fail (notSet name))
    else match use with
    | .plain => (atoms, m)
    | .length => (valueAtoms quoted (Text.ofNat (text?.getD []).length), m)
    | .default colon => if missing colon then word m else (atoms, m)
    | .instead colon => if missing colon then ([], m) else word m
    | .assign colon =>
      if !missing colon then (atoms, m)
      else
        let (value, m) := expand ⟨false, false⟩ fuel (withHome (m.get? "HOME") false w) m
        if m.left.isSome then ([], m)
        else if !isName name then ([], m.fail (name ++ Text.ofString ": bad variable name"))
        else (valueAtoms quoted (textOf value), m.set name (textOf value))
    | .demand colon =>
      if !missing colon then (atoms, m)
      else
        let (told, m) := expand ⟨false, false⟩ fuel w m
        if m.left.isSome then ([], m)
        else
          let reason : Text := if !w.isEmpty then name ++ Text.ofString ": " ++ textOf told
            else notSet name ++ (if colon then Text.ofString " or null" else [])
          ([], m.fail reason)
    | .dropStart longest =>
      let (pattern, m) := expand ⟨false, false⟩ fuel w m
      (atomsOf (withoutStart longest (patternOf (marksOf pattern)) (text?.getD [])), m)
    | .dropEnd longest =>
      let (pattern, m) := expand ⟨false, false⟩ fuel w m
      (atomsOf (withoutEnd longest (patternOf (marksOf pattern)) (text?.getD [])), m)
    | .bad => ([], m.fail "Bad substitution")

def plainText : Nat → Word → Machine → Text × Machine
  | 0, _, m => ([], endless m)
  | fuel + 1, w, m =>
    let (atoms, m) := expand ⟨false, false⟩ fuel w m
    (textOf atoms, m)

def marksFor : Nat → Word → Machine → List Mark × Machine
  | 0, _, m => ([], endless m)
  | fuel + 1, w, m =>
    let (atoms, m) := expand ⟨false, false⟩ fuel (withHome (m.get? "HOME") false w) m
    (marksOf atoms, m)

def valueFor : Nat → Word → Machine → Text × Machine
  | 0, _, m => ([], endless m)
  | fuel + 1, w, m => plainText fuel (withHome (m.get? "HOME") true w) m

def output : Nat → Option Script → Machine → Text × Machine
  | 0, _, m => ([], endless m)
  | _ + 1, none, m => ([], m)
  | fuel + 1, some c, m =>
    let (n, m) := m.fresh
    let ended := finish fuel (run fuel ⟨false, true⟩ c (m.enter.setEnd 1 (some (.buffer n))))
    let after := rejoin m ended
    (trimOutput (ended.collected n), { after with putIn := some after.status, status := m.status })

def fields : Nat → Word → Machine → List Text × Machine
  | 0, _, m => ([], endless m)
  | fuel + 1, w, m =>
    let (atoms, m) := expand ⟨true, false⟩ fuel (withHome (m.get? "HOME") false w) m
    ((split m.separators none atoms).flatMap (pathsOf m), m)

def allFields : Nat → List Word → Machine → List Text × Machine
  | 0, _, m => ([], endless m)
  | _ + 1, [], m => ([], m)
  | fuel + 1, w :: rest, m =>
    if m.left.isSome then ([], m)
    else
      let (front, m) := fields fuel w m
      let (back, m) := allFields fuel rest m
      (front ++ back, m)

def firstFields : Nat → List Word → Machine → List Text × List Word × Machine
  | 0, _, m => ([], [], endless m)
  | _ + 1, [], m => ([], [], m)
  | fuel + 1, w :: rest, m =>
    let (front, m) := fields fuel w m
    if m.left.isSome || !front.isEmpty then (front, rest, m) else firstFields fuel rest m

def assignerFields : Nat → List Word → Machine → List Text × Machine
  | 0, _, m => ([], endless m)
  | _ + 1, [], m => ([], m)
  | fuel + 1, w :: rest, m =>
    if m.left.isSome then ([], m)
    else
      let (front, m) := match w.assignment? with
        | some (name, value) =>
          let (t, m) := valueFor fuel value m
          ([name ++ .scalar '=' :: t], m)
        | none => fields fuel w m
      let (back, m) := assignerFields fuel rest m
      (front ++ back, m)

def commandFields : Nat → List Word → Machine → List Text × Machine
  | 0, _, m => ([], endless m)
  | fuel + 1, ws, m =>
    let (front, rest, m) := firstFields fuel ws m
    let named := front.find? fun w => w ≠ Text.ofString "command"
    let named := match named, rest with
      | none, w :: _ => w.bare?
      | n, _ => n
    let (back, m) :=
      if named.any assigners.contains then assignerFields fuel rest m else allFields fuel rest m
    (front ++ back, m)

def openings : Nat → List Redirect → Machine → List Opening × Machine
  | 0, _, m => ([], endless m)
  | _ + 1, [], m => ([], m)
  | fuel + 1, r :: rest, m =>
    if m.left.isSome then ([], m)
    else
      let (first, m) : List Opening × Machine := match r with
        | .file fd way w =>
          let (marks, m) := marksFor fuel w m
          ([.file fd way (marks.map (·.1))], m)
        | .document fd number =>
          let (t, m) := plainText fuel ((m.documents.lookup number).getD []) m
          match m.left with
          | some .error => ([.broken], { m with left := none })
          | _ => ([.text fd t], m)
        | .copy fd w =>
          let (t, m) := plainText fuel w m
          if m.left.isSome then ([], m)
          else if t = Text.ofString "-" then ([.copy fd none], m)
          else match t with
            | [c] => match c.digit? with
              | some n => ([.copy fd (some n)], m)
              | none => ([], badDescriptor m)
            | _ => ([], badDescriptor m)
      let (more, m) := openings fuel rest m
      (first ++ more, m)

def redirect : Nat → List Redirect → Machine → Bool × Machine
  | 0, _, m => (false, endless m)
  | fuel + 1, rs, m =>
    let (all, m) := openings fuel rs m
    if m.left.isSome then (false, m) else openAll all m

/-- Sets variables in front of a command; those of one command are given back later. -/
def assign (kept exported : Bool) : Nat → List (Text × Word) → Machine → List Text × Machine
  | 0, _, m => ([], endless m)
  | _ + 1, [], m => ([], m)
  | fuel + 1, (name, w) :: rest, m =>
    if m.left.isSome then ([], m)
    else
      let (t, m) := valueFor fuel w m
      if m.left.isSome then ([], m)
      else
        let m := (if kept then keep name m else m).set name t
        let m := if exported then setExported name m else m
        let (shown, m) := assign kept exported fuel rest m
        ((name ++ .scalar '=' :: t) :: shown, m)

def trace : Nat → List Text → Machine → Machine
  | 0, _, m => endless m
  | fuel + 1, ws, m =>
    if !m.has 'x' || ws.isEmpty then m
    else
      let quiet := m.setOption (.scalar 'x') false
      let (lead, _) := plainText fuel (documentOf (quiet.get "PS4")) quiet
      m.write 2 (lead ++ Text.join " " ws ++ [Text.newline])

def runLines : Nat → (tested ran : Bool) → Source → Machine → Machine
  | 0, _, _, _, m => endless m
  | fuel + 1, tested, ran, s, m =>
    if m.left.isSome then m
    else match ({ s with fresh := nextDocument m }).next with
      | .error fault => { m with line := fault.line }.fail fault.reason
      | .ok ((c, ends), s) =>
        let m := { m with documents := s.documents ++ m.documents, reached := s.line }
        let s := { s with documents := [] }
        let (ran, m) := match c with
          | some c =>
            if m.has 'n' then (ran, m)
            else (true, run fuel ⟨tested, false⟩ c m)
          | none => (ran, m)
        if m.left.isSome then m
        else if ends then if ran then m else m.done 0
        else runLines fuel tested ran s m

def runText : Nat → (tested : Bool) → Text → Machine → Machine
  | 0, _, _, m => endless m
  | fuel + 1, tested, t, m => runLines fuel tested false (.start t 0) m

/-- Runs what a trap asks for; the status is what it was before. -/
def runTrap : Nat → Text → Machine → Machine
  | 0, _, m => endless m
  | fuel + 1, action, m =>
    let status := m.asked.getD m.status
    let ended := runText fuel false action { m with asked := some status }
    match ended.left with
    | none => { ended with status := status, asked := m.asked }
    | some .return => { ended with asked := m.asked }
    | _ => ended

def heed : Nat → List Nat → Machine → Machine
  | 0, _, m => endless m
  | _ + 1, [], m => m
  | fuel + 1, n :: rest, m =>
    if m.left.isSome then m
    else
      let action? := if uncatchable.contains n then none else m.traps.lookup n
      match action? with
      | some action => heed fuel rest (if action.isEmpty then m else runTrap fuel action m)
      | none =>
        if unnoticed.contains n then heed fuel rest m
        else if stopping.contains n then endless m
        else { m with left := some (.signal n) }

def heedAll : Nat → Machine → Machine
  | 0, m => endless m
  | fuel + 1, m =>
    if m.world.sent.isEmpty || m.left.isSome then m
    else
      let (signals, m) := due m
      heed fuel signals m

/-- Ends a shell: what was to be done at its end is done, and its status is the one asked for. -/
def finish : Nat → Machine → Machine
  | 0, m => endless m
  | fuel + 1, m =>
    match m.left with
    | some (.signal _) => m
    | left =>
      let status := match left with
        | some .exit => m.asked.getD m.status
        | _ => m.status
      let m := { m with status := status, asked := none, left := none, loops := 0 }
      match m.traps.lookup 0 with
      | none => { m with left := some .exit }
      | some action =>
        let others := m.traps.filter (·.1 ≠ 0)
        let ended := runText fuel false action { m with asked := some status, traps := others }
        match ended.left with
        | some (.signal _) => ended
        | some .over => { ended with left := some .exit }
        | some .error => { ended with left := some .exit }
        | some .exit => { ended with status := ended.asked.getD status }
        | _ => { ended with status := status, left := some .exit }

def shell : Nat → (name : Text) → (args : List Text) → Machine → Machine
  | 0, _, _, m => endless m
  | fuel + 1, name, args, m =>
    let m := fresh name m
    let refuse (t : Text) : Machine := m.complain t 2
    match m.chosen true args with
    | .error t => refuse t
    | .ok c =>
      let m := c.machine
      let input : Machine :=
        let t := m.input?.getD []
        finish fuel (runText fuel false t
          (m.leaveInput []))
      match c.rest with
      | [] =>
        if c.script then refuse "-c requires an argument" else input
      | first :: rest =>
        if c.script then
          let m := { m with name := rest.head?.getD name, args := rest.drop 1 }
          finish fuel (runText fuel false first m)
        else if m.has 's' then
          finish fuel (runText fuel false (m.input?.getD [])
            ({ m with args := c.rest }.leaveInput []))
        else match m.readFile first with
          | .ok t => finish fuel (runText fuel false t { m with name := first, args := rest })
          | .error .isDirectory => m
          | .error (.other e) => refuse (Text.ofString "cannot open " ++ first ++ Text.ofString ": "
              ++ Text.ofString e.description)
          | .error _ => refuse (Text.ofString "cannot open " ++ first ++ Text.ofString ": No such file")

def launch : Nat → Target → (name : Text) → (args : List Text) → Machine → Machine
  | 0, _, _, _, m => endless m
  | fuel + 1, t, name, args, m =>
    match t with
    | .program p => m.program p args
    | .shell => shell fuel name args m
    | .script path none => shell fuel shellName (path :: args) m
    | .script path (some (runner, more)) =>
      match programAt? runner with
      | some p =>
        if p = shellName then shell fuel runner (more ++ path :: args) m
        else m.program p (more ++ path :: args)
      | none => m
    | .fault reason status => m.complain (name ++ Text.ofString ": " ++ reason) status

/-- Runs a program by its name or path, in place of this shell if nothing follows in it. -/
def external : Nat → (direct : Bool) → (name : Text) → (args : List Text) → Machine → Machine
  | 0, _, _, _, m => endless m
  | fuel + 1, direct, name, args, m =>
    match m.target name with
    | .fault reason status => m.complain (name ++ Text.ofString ": " ++ reason) status
    | t =>
      if direct then endAs m (launch fuel t name args { m with left := none })
      else rejoin m (launch fuel t name args m.enter)

def call : Nat → Mode → Script → List Text → Machine → Machine
  | 0, _, _, _, m => endless m
  | fuel + 1, mode, body, args, m =>
    if deepest ≤ m.calls then
      m.fail (Text.ofString "Maximum function recursion depth (" ++ Text.ofNat deepest
        ++ Text.ofString ") reached")
    else
      let inner := { m with args := args, loops := 0, calls := m.calls + 1 }
      let ended := run fuel { mode with last := false } body inner
      let left := match ended.left with
        | some .return => none
        | l => l
      { ended with args := m.args, loops := m.loops, calls := m.calls, left := left }

def source : Nat → List Text → Machine → Machine
  | 0, _, m => endless m
  | fuel + 1, args, m =>
    match args with
    | [] => m.done 0
    | name :: _ =>
      match m.sourceFile? name with
      | none => m.fail (name ++ Text.ofString ": not found")
      | some path =>
        match m.readFile path with
        | .ok t =>
          let ended := runText fuel false t { m with speaker := some path }
          match ended.left with
          | some .return => { ended with left := none }
          | _ => ended
        | .error .isDirectory => m.done 0
        | .error (.other e) => m.fail (Text.ofString "cannot open " ++ path ++ Text.ofString ": "
            ++ Text.ofString e.description)
        | .error _ => m.fail (Text.ofString "cannot open " ++ path ++ Text.ofString ": No such file")

def replaceBy : Nat → List Text → Machine → Machine
  | 0, _, m => endless m
  | fuel + 1, args, m =>
    match if args.head? = some (Text.ofString "--") then args.drop 1 else args with
    | [] => m.done 0
    | name :: args =>
      match m.target name with
      | .fault reason status =>
        let status := if reason = denied then 126 else status
        { m.complain (name ++ Text.ofString ": " ++ reason) status with left := some .over }
      | t => endAs m (launch fuel t name args { m with speaker := none })

def builtinCommand : Nat → Mode → (name : Text) → (args : List Text) → Machine → Machine
  | 0, _, _, _, m => endless m
  | fuel + 1, mode, name, args, m =>
    let inner := { m with speaker := some name }
    let ended :=
      if name = Text.ofString "eval" then
        if args.isEmpty then m.done 0
        else runText fuel mode.tested (Text.join " " args) inner
      else if name = Text.ofString "." then source fuel args inner
      else if name = Text.ofString "exec" then replaceBy fuel args inner
      else if name = Text.ofString "type" then inner.describeAll args false
      else if name = Text.ofString "command" then inner.commandCommand args
      else match builtin? name with
        | some f => f args inner
        | none => inner
    { ended with speaker := m.speaker }

def dispatch : Nat → Mode → (direct : Bool) → List Text → Machine → Machine
  | 0, _, _, _, m => endless m
  | _ + 1, _, _, [], m => m.done (m.putIn.getD 0)
  | fuel + 1, mode, direct, name :: args, m =>
    match if direct then none else m.functions.lookup name with
    | some body => call fuel mode body args m
    | none =>
      if isBuiltin name then builtinCommand fuel mode name args m
      else external fuel (mode.last && m.traps.isEmpty) name args m

def simpleCommand : Nat → Mode → List (Text × Word) → List Word → List Redirect → Machine → Machine
  | 0, _, _, _, _, m => endless m
  | fuel + 1, mode, as, ws, rs, m =>
    let (texts, m) := commandFields fuel ws { m with putIn := none }
    if m.left.isSome then m
    else
      let (direct, stripped) := stripCommand texts.length texts
      let isSpecial := texts.head?.any isSpecial
      let isLocal := !texts.isEmpty && !isSpecial
      let isExec := stripped.head? = some (Text.ofString "exec")
      let (ends, kept) := (m.ends, m.kept)
      let (ok, opened) := redirect fuel rs m
      if opened.left.isSome then { opened with ends := ends }
      else if !ok then
        { opened with ends := ends, left := if isSpecial then some .error else none }
      else
        let opened := if isLocal then { opened with kept := [] } else opened
        let exported := isLocal || (isExec && 1 < stripped.length)
        let (shown, assigned) := assign isLocal exported fuel as opened
        let ended := if assigned.left.isSome then assigned
          else dispatch fuel mode direct stripped (trace fuel (shown ++ texts) assigned)
        let name := stripped.head?.getD []
        let isFunction := !direct && (m.functions.lookup name).isSome
        let taken := isLocal && assigned.left.isNone && isBuiltin name && !isFunction
        let left := match ended.left with
          | some .error => if taken then none else some .error
          | l => l
        let back := if isLocal then { giveBack ended with kept := kept } else ended
        { back with left := left, ends := if isExec && left.isNone then ended.ends else ends }

/-- Runs stages of a pipeline from a status and a time on, the output of each the input of the next. -/
def stagesFrom : Nat → Mode → (status : Nat) → (began : Float) → List Script → Machine → Machine
  | 0, _, _, _, _, m => endless m
  | _ + 1, _, _, _, [], m => m
  | fuel + 1, mode, status, began, c :: rest, m =>
    let (n, m) := m.fresh
    let child := m.enter
    let child := { child with status := status, world := { child.world with clock := began } }
    let child := if rest.isEmpty then child else child.setEnd 1 (some (.buffer n))
    let ended := finish fuel (run fuel { mode with last := true } c child)
    let clock := if ended.world.clock < m.world.clock then m.world.clock else ended.world.clock
    let ended := { ended with world := { ended.world with clock := clock } }
    let after := rejoin m ended
    let (e, next) := after.newSource (ended.collected n)
    { stagesFrom fuel mode status began rest (next.setEnd 0 (some e)) with ends := m.ends }

def background : Nat → Script → Machine → Machine
  | 0, _, m => endless m
  | fuel + 1, c, m =>
    let child := m.enter.setEnd 0 (some .nothing)
    let ended := finish fuel (run fuel ⟨false, true⟩ c child)
    let (status, signal) := match ended.left with
      | some (.signal n) => (128 + n, some n)
      | _ => (ended.status % 256, none)
    let clock := ended.world.clock
    let alone := match c with
      | .simple .. => true
      | _ => false
    let job : Job := ⟨child.process, status, signal, clock, alone⟩
    let endings := (child.process, clock) :: ended.world.endings
    let world := { ended.world with clock := m.world.clock, endings := endings }
    { m with world := world, jobs := job :: m.jobs, status := 0 }

/-- Runs a script in a shell of its own; in this one, if nothing follows in it. -/
def subshell : Nat → Mode → Script → List Redirect → Machine → Machine
  | 0, _, _, _, m => endless m
  | fuel + 1, mode, c, rs, m =>
    let (all, m) := openings fuel rs m
    if m.left.isSome then m
    else
      let direct := mode.last && m.traps.isEmpty
      let (ok, opened) := openAll all (if direct then m else m.enter)
      let ended := finish fuel
        (if ok then run fuel { mode with last := true } c opened
          else { opened with left := some .over })
      if direct then endAs m ended else rejoin m ended

def loop : Nat → Mode → (wanted : Bool) → (test body : Script) → (status : Nat) → Machine → Machine
  | 0, _, _, _, _, _, m => endless m
  | fuel + 1, mode, wanted, test, body, status, m =>
    let (goes, tested) := turn (run fuel ⟨true, false⟩ test m)
    if tested.left.isSome || !goes then
      { tested with status := if tested.left.isSome then tested.status else status }
    else if (tested.status == 0) != wanted then tested.done status
    else
      let (goes, ended) := turn (run fuel mode body tested)
      if goes then loop fuel mode wanted test body ended.status ended else ended

def each : Nat → Mode → (name : Text) → List Text → (body : Script) → Machine → Machine
  | 0, _, _, _, _, m => endless m
  | _ + 1, _, _, [], _, m => m
  | fuel + 1, mode, name, t :: rest, body, m =>
    let m := m.set name t
    if m.left.isSome then m
    else
      let (goes, ended) := turn (run fuel mode body m)
      if goes then each fuel mode name rest body ended else ended

def matchesOne : Nat → Text → List Word → Machine → Bool × Machine
  | 0, _, _, m => (false, endless m)
  | _ + 1, _, [], m => (false, m)
  | fuel + 1, t, w :: rest, m =>
    let (marks, m) := marksFor fuel w m
    if m.left.isSome then (false, m)
    else if fits (patternOf marks) t then (true, m)
    else matchesOne fuel t rest m

def select : Nat → Mode → Text → List (List Word × Option Script) → Machine → Machine
  | 0, _, _, _, m => endless m
  | _ + 1, _, _, [], m => m.done 0
  | fuel + 1, mode, t, (patterns, body) :: rest, m =>
    let (found, m) := matchesOne fuel t patterns m
    if m.left.isSome then m
    else if found then match body with
      | some c => run fuel mode c m
      | none => m.done 0
    else select fuel mode t rest m

/-- Runs a script, between looks at the signals that have come. -/
def run : Nat → Mode → Script → Machine → Machine
  | 0, _, _, m => endless m
  | fuel + 1, mode, s, m =>
    let m := heedAll fuel m
    if m.left.isSome then m
    else
      let inner : Mode := { mode with last := false }
      let (checked, m) : Bool × Machine := match s with
        | .simple line as ws rs => (true, simpleCommand fuel mode as ws rs { m with line := line })
        | .pipeline stages => (true, stagesFrom fuel mode m.status m.world.clock stages m)
        | .not c =>
          let m := run fuel ⟨true, false⟩ c m
          (false, if m.left.isSome then m else m.done (if m.status = 0 then 1 else 0))
        | .and a b =>
          let m := run fuel ⟨true, false⟩ a m
          (false, if m.left.isSome || m.status ≠ 0 then m else run fuel mode b m)
        | .or a b =>
          let m := run fuel ⟨true, false⟩ a m
          (false, if m.left.isSome || m.status = 0 then m else run fuel mode b m)
        | .series a b =>
          let m := run fuel inner a m
          (false, if m.left.isSome then m else run fuel mode b m)
        | .background c => (true, background fuel c m)
        | .subshell line c rs => (true, subshell fuel mode c rs { m with line := line })
        | .redirected line c rs =>
          let m := { m with line := line }
          let ends := m.ends
          let (ok, opened) := redirect fuel rs m
          let m := if !ok || opened.left.isSome then opened else run fuel inner c opened
          (!ok, { m with ends := ends })
        | .choice test yes no =>
          let m := run fuel ⟨true, false⟩ test m
          (false, if m.left.isSome then m
            else if m.status = 0 then run fuel mode yes m
            else match no with
              | some no => run fuel mode no m
              | none => m.done 0)
        | .loop wanted test body =>
          let ended := loop fuel inner wanted test body 0 { m with loops := m.loops + 1 }
          (false, { ended with loops := m.loops })
        | .each line name words body =>
          let (texts, m) := allFields fuel words { m with line := line }
          if m.left.isSome then (false, m)
          else
            let ended := if texts.isEmpty then m.done 0
              else each fuel inner name texts body { m with loops := m.loops + 1 }
            (false, { ended with loops := m.loops })
        | .select line word clauses =>
          let (marks, m) := marksFor fuel word { m with line := line }
          (false, if m.left.isSome then m else select fuel mode (marks.map (·.1)) clauses m)
        | .define _ name body =>
          let others := m.functions.filter (·.1 ≠ name)
          (false, { m.done 0 with functions := (name, body) :: others })
      let m := heedAll fuel m
      if m.left.isNone && checked && m.has 'e' && !mode.tested && m.status ≠ 0 then
        { m with left := some .over }
      else m

end

def steps : Nat := 100000

end Redraft.Shell
