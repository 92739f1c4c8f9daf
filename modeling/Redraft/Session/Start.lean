import Redraft.Agent.Claude
import Redraft.Prompt.System
import Redraft.Session.Basic
import Redraft.Source.Imports

/-!
What a session needs before its first round: an agent, the checkers, the system prompt, and a first
prompt. The target, its imports and the first check are read in this order, and the agent is asked
only when all of them are there.
-/
namespace Redraft

/-- What a run draws on: replies written in advance, and a host with its state. -/
structure Outside (ω : Type) where
  replies : List Text
  host : ω

variable {ω : Type}

namespace Outside

def hosted (h : Host ω) : Host (Outside ω) where
  run f c s := let (o, host) := h.run f c s.host; (o, { s with host := host })
  room := h.room
  refuses f p content s := h.refuses f p content s.host

def scripted : Agent (Outside ω) where
  name := Agent.scripted.name
  ask f system prompt s :=
    let (reply, rest) := Agent.scripted.ask f system prompt s.replies
    (reply, { s with replies := rest })

def agent (h : Host ω) (c : AgentConfig) (model : Option Text) : Agent (Outside ω) :=
  match c.kind with
  | .fake => scripted
  | .claudeCode => (Claude.ofConfig c model).agent (hosted h)

end Outside

namespace Setup

/-- What runs under a configuration have in common. A guide that is given replaces the one of the
configuration. -/
def ofConfig (h : Host ω) (agent : Agent (Outside ω)) (c : Config) (guide : Option Path) (f : Files) :
    Except Failure (Setup (Outside ω)) := do
  let system ← Prompt.system f (guide.or c.guide)
  return {
    agent := agent
    system := system
    language := c.language
    room := h.room
    check := (CheckerTable.ofConfig c).check (Outside.hosted h)
    refuses := (Outside.hosted h).refuses }

variable {σ : Type}

def firstCheck (u : Setup σ) (f : Files) (target : Path) (check : Bool) (s : σ) :
    Except Failure (Option Text) × σ :=
  if check then
    let (outcome, s) := u.check f target s
    (outcome.map fun o => some o.text, s)
  else (.ok none, s)

def sources (u : Setup σ) (f : Files) (target : Path) : Except Failure (Text × Text) := do
  let content ← f.readText target
  return (content, ← Source.importBlocks f u.language target content)

def start (u : Setup σ) (maxRounds : Option Nat) (f : Files) (target : Path) (request : Text)
    (check : Bool) (s : σ) : Except Failure Session × σ :=
  match u.sources f target with
  | .error e => (.error e, s)
  | .ok (content, imports) =>
    match u.firstCheck f target check s with
    | (.error e, s) => (.error e, s)
    | (.ok diagnostics, s) =>
      let pending := Prompt.first target.toText content request imports diagnostics
      (.ok ⟨target, pending, check, maxRounds, 0, 0, 0⟩, s)

/-- A whole session, from its start to the end of its rounds; nothing if it has more of them than
given. -/
def runFrom (u : Setup σ) (fuel : Nat) (maxRounds : Option Nat) (f : Files) (target : Path)
    (request : Text) (check : Bool) (s : σ) :
    Option (Except Failure SessionResult × Files × σ) :=
  match u.start maxRounds f target request check s with
  | (.error e, s) => some (.error e, f, s)
  | (.ok session, s) =>
    (u.run fuel ⟨session, f, s, []⟩).map fun (result, s) => (result, s.files, s.outside)

end Setup

end Redraft
