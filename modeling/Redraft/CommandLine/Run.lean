import Redraft.CommandLine.Arguments
import Redraft.Config.Load
import Redraft.Session.Start

/-!
The command line: one file is edited as a request says. A failure that is understood is reported as
an error; any other ends the program.
-/
namespace Redraft.CommandLine

inductive Exit where
  | version
  | misuse
  | usage
  | success (repairRounds : Nat)
  | failure (f : Failure)

def isParameter (c : CodePoint) : Bool :=
  c.digit?.isSome || c = .scalar ';' || c = .scalar '?'

def afterControl? : Text → Option Text
  | .scalar '\x1b' :: .scalar '[' :: rest =>
    match rest.dropWhile isParameter with
    | .scalar c :: rest => if c.isAlpha then some rest else none
    | _ => none
  | _ => none

def plainFrom : Nat → Text → Text
  | 0, t => t
  | fuel + 1, t =>
    match afterControl? t, t with
    | some rest, _ => plainFrom fuel rest
    | none, c :: rest => c :: plainFrom fuel rest
    | none, [] => []

def plain (t : Text) : Text := plainFrom t.length t

/-- A text in which lone surrogates are shown by their numbers. -/
def encodable (t : Text) : Text :=
  t.flatMap fun
    | .scalar c => [.scalar c]
    | .surrogate i => Text.numberEscape (.surrogate i)

namespace Exit

def code : Exit → Nat
  | version => 0
  | misuse => 2
  | usage => 1
  | success _ => 0
  | failure _ => 1

def line (t : Text) : Text := t ++ [Text.newline]

def stdout : Exit → Text
  | version => line "sirecoder version 0.1.0"
  | usage => line "Usage: sirecoder <file> <request> [<model>] [--check]"
  | success repairs =>
    line [] ++ line "File refactored successfully."
      ++ (if repairs = 0 then [] else line (Text.ofString "Repair rounds: " ++ Text.ofNat repairs))
  | _ => []

def stderr (wording : Detail → Text) : Exit → Text
  | failure f =>
    if f.isReported then
      encodable (plain (line (Text.ofString "Error: " ++ (f.message? wording).getD [])))
    else []
  | _ => []

def escaped? : Exit → Option Failure
  | failure f => if f.isReported then none else some f
  | _ => none

end Exit

def isFileLike (f : Files) (p : Path) : Bool :=
  match f.stat p with
  | .ok (.dir _) => false
  | .ok _ => true
  | .error _ => false

def optionPath? (room : Room) (f : Files) (isReal : Bool) (t : Text) : Option (Except Failure Path) :=
  if t.isEmpty then none
  else
    let given := Path.ofText t
    match if isReal then f.realPath room.links given else .ok given with
    | .ok p => if isFileLike f p then some (.ok p) else none
    | .error .linkDepth => some (.error .linkDepth)
    | .error _ => none

/-- Whether a path may be asked for at all, be there something or not. -/
def isAskable (t : Text) : Bool := (nameFault? t).isNone

def inFile (p : Path) : Failure → Failure
  | .config e => if (Failure.config e).isPlain then .invalidConfig p e else .config e
  | .undecodable fault => .invalidConfig p (.undecodable fault)
  | e => e

def configFile (f : Files) (asked : Option (Except Failure Path)) (target : Path) :
    Except Failure (Option Path) :=
  match asked with
  | some p => p.map some
  | none => Config.find f target

def loadConfig (room : Room) (f : Files) (asked : Option (Except Failure Path)) (target : Path) :
    Except Failure Config := do
  match ← configFile f asked target with
  | none => return {}
  | some p => (Config.load room.yaml f p).mapError (inFile p)

variable {ω : Type}

def session (h : Host ω) (host : ω) (fuel : Nat) (f : Files) (r : Request)
    (asked guide : Option (Except Failure Path)) (target : Path) (request : Text) :
    Option (Except Failure SessionResult × Files) :=
  match do
    let c ← loadConfig h.room f asked target
    let u ← Setup.ofConfig h (Outside.agent h c.agent r.positional[2]?) c (← guide.mapM id) f
    return (c, u)
  with
  | .error e => some (.error e, f)
  | .ok (c, u) =>
    (u.runFrom fuel c.maxRounds f target request r.check ⟨c.agent.script, host⟩).map
      fun (result, f, _) => (result, f)

def run (h : Host ω) (host : ω) (fuel : Nat) (f : Files) (args : List Text) : Option (Exit × Files) :=
  match read? args with
  | none => some (.misuse, f)
  | some r =>
    let config := r.config.map (optionPath? h.room f true)
    let guide := r.guide.map (optionPath? h.room f false)
    if r.version then some (.version, f)
    else if config.any Option.isNone ∨ guide.any Option.isNone ∨ 3 < r.positional.length
        ∨ !r.positional.head?.all isAskable then some (.misuse, f)
    else match r.positional with
      | file :: request :: _ =>
        (session h host fuel f r config.join guide.join (.ofText file) request).map
          fun (result, f) => match result with
            | .ok r => (.success r.repairRounds, f)
            | .error e => (.failure e, f)
      | _ => some (.usage, f)

end Redraft.CommandLine
