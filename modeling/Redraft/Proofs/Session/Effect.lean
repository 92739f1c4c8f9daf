import Redraft.Proofs.Session.Trace

/-!
What handling a reply does, apart from the books of a session. Its counters, its limit, its pending
prompt and the log have no say in it: what is done follows from the target, from whether checks are
made, from the files and from what is outside.
-/
namespace Redraft

variable {σ : Type}

/-- What a reply comes to. -/
inductive Verdict where
  | served (answer : Text)
  | unserved (failure : Failure)
  | refused (prompt : Text)
  | finished (content : Text) (outcome : Option Outcome)
  | failed (failure : Failure)

namespace Verdict

@[simp]
def round (session : Session) : Verdict → Round
  | served _ => .again
  | unserved e => .failed e
  | refused _ => .again
  | finished content outcome => .finished (session.result content outcome)
  | failed e => .failed e

/-- The session with the round in its books. -/
@[simp]
def book (session : Session) : Verdict → Session
  | served answer => { session with infoRounds := session.infoRounds + 1, pending := answer }
  | unserved _ => { session with infoRounds := session.infoRounds + 1 }
  | refused prompt => { session with repairRounds := session.repairRounds + 1, pending := prompt }
  | finished .. => session
  | failed _ => session

def next? : Verdict → Option Text
  | served answer => some answer
  | refused prompt => some prompt
  | _ => none

theorem round_eq_again_iff {v : Verdict} {session : Session} :
    v.round session = .again ↔ ∃ prompt, v.next? = some prompt := by
  cases v <;> simp [round, next?]

theorem pending_book (v : Verdict) (session : Session) :
    (v.book session).pending = v.next?.getD session.pending := by
  cases v <;> rfl

@[simp]
theorem check_book (v : Verdict) (session : Session) : (v.book session).check = session.check := by
  cases v <;> rfl

@[simp]
theorem maxRounds_book (v : Verdict) (session : Session) :
    (v.book session).maxRounds = session.maxRounds := by
  cases v <;> rfl

end Verdict

/-- What handling a reply does: the files and the state outside after it, what was written and what
its check said, and what the reply comes to. -/
structure Effect (σ : Type) where
  files : Files
  outside : σ
  wrote : Option Text := none
  checked : Option (Except Failure Outcome) := none
  verdict : Verdict

namespace Effect

@[simp]
def acts (e : Effect σ) : List Event :=
  (e.wrote.map fun content => .wrote content e.files).toList ++
    (e.checked.map fun outcome => .checked outcome e.files).toList

def on (e : Effect σ) (s : RunState σ) : Round × RunState σ :=
  (e.verdict.round s.session, ⟨e.verdict.book s.session, e.files, e.outside, s.log ++ e.acts⟩)

variable {e : Effect σ} {s : RunState σ} {prompt : Text}

theorem prompts_on (e : Effect σ) (s : RunState σ) : (e.on s).2.prompts = s.prompts := by
  have hacts : e.acts.filterMap Event.prompt? = [] := by
    obtain ⟨f, o, wrote, checked, verdict⟩ := e
    cases wrote <;> cases checked <;> rfl
  rw [RunState.prompts, on, List.filterMap_append, hacts, List.append_nil]
  rfl

theorem acts_on (e : Effect σ) (s : RunState σ) : (e.on s).2.acts = s.acts ++ e.acts := by
  have hacts : e.acts.filter Event.isAct = e.acts := by
    obtain ⟨f, o, wrote, checked, verdict⟩ := e
    cases wrote <;> cases checked <;> rfl
  rw [RunState.acts, on, List.filter_append, hacts]
  rfl

theorem due_on (h : e.verdict.next? = some prompt) : (e.on s).2.due = s.prompts ++ [prompt] := by
  rw [RunState.due, prompts_on]
  simp only [on, Verdict.pending_book, h, Option.getD_some]

end Effect

namespace Setup

variable {u : Setup σ} {s : RunState σ} {reply : Text} {failure : Failure}

def writeEffect (u : Setup σ) (target : Path) (check : Bool) (f : Files) (content : Text) (o : σ) :
    Effect σ :=
  let g : Files := { f with tree := (u.put target f content o).2 }
  match (u.put target f content o).1, check with
  | .error e, _ => { files := g, outside := o, verdict := .failed e }
  | .ok (), false =>
    { files := g, outside := o, wrote := some content, verdict := .finished content none }
  | .ok (), true =>
    { files := g
      outside := (u.check g target o).2
      wrote := some content
      checked := some (u.check g target o).1
      verdict := match (u.check g target o).1 with
        | .error e => .failed e
        | .ok outcome => match outcome.diagnostics? with
          | some diagnostics => .refused (Prompt.repair target.toText content diagnostics)
          | none => .finished content (some outcome) }

def effect (u : Setup σ) (target : Path) (check : Bool) (f : Files) (reply : Text) (o : σ) :
    Effect σ :=
  match Turn.ofReply u.room.json reply with
  | .error e => { files := f, outside := o, verdict := .failed (.reply e) }
  | .ok (.info requests) =>
    { files := f
      outside := o
      verdict := match Source.serve u.room.links f u.language target.parent requests with
        | .ok answer => .served answer
        | .error e => .unserved e }
  | .ok (.edit content) => u.writeEffect target check f (Text.trim content) o

theorem edit_eq_writeEffect (u : Setup σ) (content : Text) (s : RunState σ) : edit u content s =
    (u.writeEffect s.session.target s.session.check s.files (Text.trim content) s.outside).on s := by
  unfold edit apply write checkTarget writeEffect
  dsimp only
  cases hwrite : (u.put s.session.target s.files (Text.trim content) s.outside).1 with
  | error e => simp [Effect.on]
  | ok _ =>
    cases hcheck : s.session.check with
    | false => simp [Effect.on, RunState.note, hcheck]
    | true =>
      simp only [RunState.note, hcheck, if_true]
      cases (u.check _ s.session.target s.outside).1 with
      | error e => simp [Effect.on, Except.map]
      | ok outcome =>
        cases hdiagnostics : outcome.diagnostics? with
        | none => simp [Effect.on, Except.map, hdiagnostics]
        | some diagnostics => simp [Effect.on, Except.map, hdiagnostics, repair]

/-- Handling a reply is the same whatever the books say. -/
theorem handle_eq_effect (u : Setup σ) (reply : Text) (s : RunState σ) : handle u reply s =
    (u.effect s.session.target s.session.check s.files reply s.outside).on s := by
  unfold handle effect
  cases Turn.ofReply u.room.json reply with
  | error e => simp [Effect.on]
  | ok turn =>
    cases turn with
    | edit content => exact edit_eq_writeEffect u content s
    | info requests =>
      dsimp only
      unfold serve
      dsimp only
      cases Source.serve u.room.links s.files u.language s.session.target.parent requests with
      | error e => simp [Effect.on]
      | ok answer => simp [Effect.on]

theorem prompts_ask (u : Setup σ) (s : RunState σ) : (u.ask s).2.prompts = s.due :=
  List.filterMap_append

theorem acts_ask (u : Setup σ) (s : RunState σ) : (u.ask s).2.acts = s.acts := by
  have happend : (u.ask s).2.acts = s.acts ++ [] := List.filter_append _ _
  rw [happend, List.append_nil]

theorem round_of_reply (hopen : isSpent s.session = false) (hask : (u.ask s).1 = .ok reply) :
    u.round s = (u.effect s.session.target s.session.check s.files reply (u.ask s).2.outside).on
      (u.ask s).2 := by
  obtain ⟨a, ha⟩ := exists_snd hask
  have hhandle := handle_eq_effect u reply (u.ask s).2
  rw [ask_session, ask_files] at hhandle
  rw [← hhandle, round, hopen, ha]
  rfl

theorem round_of_silence (hopen : isSpent s.session = false) (hask : (u.ask s).1 = .error failure) :
    u.round s = (.failed failure, (u.ask s).2) := Goes.eq_round (.unanswered hopen hask)

theorem round_of_spent (hspent : isSpent s.session = true) : u.round s =
    (.failed (.roundLimit (s.session.maxRounds.getD 0) s.session.rounds), s) :=
  Goes.eq_round (.spent hspent)

theorem isSpent_of_unlimited (h : s.session.maxRounds = none) : isSpent s.session = false := by
  rw [isSpent, h]
  rfl

theorem prompts_round (hopen : isSpent s.session = false) : (u.round s).2.prompts = s.due := by
  cases hask : (u.ask s).1 with
  | error e => rw [round_of_silence hopen hask, prompts_ask]
  | ok reply => rw [round_of_reply hopen hask, Effect.prompts_on, prompts_ask]

theorem log_ask_round (hopen : isSpent s.session = false) :
    (u.ask s).2.log <+: (u.round s).2.log := by
  cases hask : (u.ask s).1 with
  | error e => simp only [round_of_silence hopen hask, List.prefix_refl]
  | ok reply =>
    rw [round_of_reply hopen hask]
    exact List.prefix_append _ _

theorem exists_sights_eq_asked {s' : RunState σ} (hlog : s.log = [])
    (h : (u.ask s).2.log <+: s'.log) :
    ∃ reply rest, s'.sights u.system = .asked s.files u.system s.session.pending reply :: rest := by
  obtain ⟨added, hadded⟩ := h
  have hasked : (u.ask s).2.log =
      [.asked { s.session with rounds := s.session.rounds + 1 } s.files (u.ask s).1] :=
    congrArg (· ++ [_]) hlog
  rw [RunState.sights, ← hadded, hasked]
  exact ⟨_, _, rfl⟩

theorem maxRounds_round (u : Setup σ) (s : RunState σ) :
    (u.round s).2.session.maxRounds = s.session.maxRounds := by
  cases hspent : isSpent s.session with
  | true => rw [round_of_spent hspent]
  | false =>
    cases hask : (u.ask s).1 with
    | error e =>
      rw [round_of_silence hspent hask]
      rfl
    | ok reply =>
      rw [round_of_reply hspent hask]
      exact Verdict.maxRounds_book _ _

theorem Reaches.maxRounds {s₀ : RunState σ} {w : Option Text} (h : Reaches u s₀ w s) :
    s.session.maxRounds = s₀.session.maxRounds := by
  induction h with
  | start => rfl
  | @again w s s' h hround ih =>
    have hmax := maxRounds_round u s
    rw [hround] at hmax
    exact hmax.trans ih

end Setup

end Redraft
