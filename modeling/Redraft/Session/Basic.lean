import Redraft.Checker
import Redraft.Agent.Basic
import Redraft.Prompt.Input
import Redraft.Source.Excerpt
import Redraft.Files.Write

/-!
Sessions: an agent is asked until the target is written and, with checking on, accepted. A session
holds one pending prompt, which each round replaces. A round serves requests or writes a result; the
run is the rounds up to the first that ends it.
-/
namespace Redraft

structure Session where
  target : Path
  pending : Text
  check : Bool := false
  maxRounds : Option Nat := none
  rounds : Nat := 0
  infoRounds : Nat := 0
  /-- Rounds that wrote what was not accepted. -/
  repairRounds : Nat := 0
  deriving DecidableEq

/-- What a run ends with. -/
structure SessionResult where
  target : Path
  content : Text
  rounds : Nat
  infoRounds : Nat
  repairRounds : Nat
  outcome : Option Outcome
  deriving DecidableEq

def Session.result (s : Session) (content : Text) (outcome : Option Outcome) : SessionResult :=
  ⟨s.target, content, s.rounds, s.infoRounds, s.repairRounds, outcome⟩

/-- What happens in a run, with the session and the files as they were then. -/
inductive Event where
  | asked (session : Session) (files : Files) (reply : Except Failure Text)
  | wrote (content : Text) (files : Files)
  | checked (outcome : Except Failure Outcome) (files : Files)

/-- What stays the same in a run. -/
structure Setup (σ : Type) where
  agent : Agent σ
  system : Text
  language : Language
  room : Room
  check : Files → Path → σ → Except Failure Outcome × σ
  refuses : Files → Path → Text → σ → Refusals := fun _ _ _ _ => {}

/-- A point in a run. `outside` is the state of the agent and of the checkers. -/
structure RunState (σ : Type) where
  session : Session
  files : Files
  outside : σ
  log : List Event := []

namespace RunState

variable {σ : Type}

def note (e : Event) (s : RunState σ) : RunState σ := { s with log := s.log ++ [e] }

end RunState

/-- What a round leads to. -/
inductive Round where
  | again
  | finished (result : SessionResult)
  | failed (failure : Failure)

namespace Setup

variable {σ : Type}

def isSpent (s : Session) : Bool := s.maxRounds.any (· ≤ s.rounds)

def ask (u : Setup σ) (s : RunState σ) : Except Failure Text × RunState σ :=
  let s := { s with session := { s.session with rounds := s.session.rounds + 1 } }
  let (reply, outside) := u.agent.ask s.files u.system s.session.pending s.outside
  (reply, { s with outside := outside }.note (.asked s.session s.files reply))

def serve (u : Setup σ) (requests : List Request) (s : RunState σ) : Round × RunState σ :=
  let session := { s.session with infoRounds := s.session.infoRounds + 1 }
  match Source.serve u.room.links s.files u.language session.target.parent requests with
  | .ok answer => (.again, { s with session := { session with pending := answer } })
  | .error e => (.failed e, { s with session := session })

/-- A write to a target, as far as it is not refused. -/
def put (u : Setup σ) (target : Path) (f : Files) (content : Text) (o : σ) :
    Except Failure Unit × Tree :=
  f.writeAtomicUnless (u.refuses f target content o) target content

def write (u : Setup σ) (content : Text) (s : RunState σ) : Except Failure Unit × RunState σ :=
  let (done, tree) := u.put s.session.target s.files content s.outside
  let s := { s with files := { s.files with tree := tree } }
  match done with
  | .ok () => (.ok (), s.note (.wrote content s.files))
  | .error e => (.error e, s)

def checkTarget (u : Setup σ) (s : RunState σ) : Except Failure Outcome × RunState σ :=
  let (outcome, outside) := u.check s.files s.session.target s.outside
  (outcome, { s with outside := outside }.note (.checked outcome s.files))

def apply (u : Setup σ) (content : Text) (s : RunState σ) :
    Except Failure (Option Outcome) × RunState σ :=
  match write u (Text.trim content) s with
  | (.error e, s) => (.error e, s)
  | (.ok (), s) =>
    if s.session.check then
      let (outcome, s) := checkTarget u s
      (outcome.map some, s)
    else (.ok none, s)

def repair (content diagnostics : Text) (s : RunState σ) : RunState σ :=
  let pending := Prompt.repair s.session.target.toText content diagnostics
  { s with session :=
      { s.session with repairRounds := s.session.repairRounds + 1, pending := pending } }

/-- Applies a result; what is not accepted is to be repaired. -/
def edit (u : Setup σ) (content : Text) (s : RunState σ) : Round × RunState σ :=
  match apply u content s with
  | (.error e, s) => (.failed e, s)
  | (.ok outcome, s) =>
    match outcome.bind Outcome.diagnostics? with
    | some diagnostics => (.again, repair (Text.trim content) diagnostics s)
    | none => (.finished (s.session.result (Text.trim content) outcome), s)

def handle (u : Setup σ) (reply : Text) (s : RunState σ) : Round × RunState σ :=
  match Turn.ofReply u.room.json reply with
  | .error e => (.failed (.reply e), s)
  | .ok (.info requests) => serve u requests s
  | .ok (.edit content) => edit u content s

def round (u : Setup σ) (s : RunState σ) : Round × RunState σ :=
  if isSpent s.session then
    (.failed (.roundLimit (s.session.maxRounds.getD 0) s.session.rounds), s)
  else match ask u s with
    | (.error e, s) => (.failed e, s)
    | (.ok reply, s) => handle u reply s

/-- The rounds up to the one that ends the run; nothing if that takes more rounds than given. -/
def run (u : Setup σ) : Nat → RunState σ → Option (Except Failure SessionResult × RunState σ)
  | 0, _ => none
  | fuel + 1, s =>
    match round u s with
    | (.again, s) => run u fuel s
    | (.finished result, s) => some (.ok result, s)
    | (.failed e, s) => some (.error e, s)

end Setup

end Redraft
