import Redraft.Proofs.Session.Rounds

/-!
Observers of a run. An observer is told of each call of the agent and of each check, with what came
of it. A run goes the same way with an observer as without one, and its log holds all that any
observer can learn, in order.
-/
namespace Redraft

variable {σ τ : Type}

namespace RunState

def joined (t : τ) (s : RunState σ) : RunState (σ × τ) := ⟨s.session, s.files, (s.outside, t), s.log⟩

def forget (s : RunState (σ × τ)) : RunState σ := ⟨s.session, s.files, s.outside.1, s.log⟩

@[simp]
theorem forget_joined (t : τ) (s : RunState σ) : (s.joined t).forget = s := rfl

theorem joined_forget (s : RunState (σ × τ)) : s.forget.joined s.outside.2 = s := rfl

end RunState

/-- What an observer makes of a call of the agent and of a check. -/
structure Observer (τ : Type) where
  asked : Files → (system prompt : Text) → Except Failure Text → τ → τ
  checked : Files → Path → Except Failure Outcome → τ → τ

namespace Observer

/-- What an observer makes of an event of a run. A write is not observed. -/
def see (ob : Observer τ) (system : Text) (target : Path) (t : τ) : Event → τ
  | .asked session files reply => ob.asked files system session.pending reply t
  | .wrote .. => t
  | .checked outcome files => ob.checked files target outcome t

/-- What an observer makes of a log. -/
def watch (ob : Observer τ) (system : Text) (target : Path) (log : List Event) (t : τ) : τ :=
  log.foldl (ob.see system target) t

theorem watch_append (ob : Observer τ) (system : Text) (target : Path) (xs ys : List Event) (t : τ) :
    ob.watch system target (xs ++ ys) t = ob.watch system target ys (ob.watch system target xs t) :=
  List.foldl_append

end Observer

namespace Setup

variable {u : Setup σ} {ob : Observer τ} {content : Text} {r : Round}

def observed (u : Setup σ) (ob : Observer τ) : Setup (σ × τ) where
  agent := ⟨u.agent.name, fun f system prompt o =>
    let (reply, a) := u.agent.ask f system prompt o.1
    (reply, a, ob.asked f system prompt reply o.2)⟩
  system := u.system
  language := u.language
  room := u.room
  check f p o :=
    let (outcome, a) := u.check f p o.1
    (outcome, a, ob.checked f p outcome o.2)
  refuses f p content o := u.refuses f p content o.1

theorem write_forget (u : Setup σ) (ob : Observer τ) (content : Text) (s : RunState (σ × τ)) :
    (write (u.observed ob) content s).2.forget = (write u content s.forget).2 := by
  have hput : (u.observed ob).put s.session.target s.files content s.outside =
      u.put s.session.target s.files content s.outside.1 := rfl
  unfold write
  rw [hput]
  dsimp only [RunState.forget]
  cases (u.put s.session.target s.files content s.outside.1).1 <;> rfl

theorem checkTarget_forget (u : Setup σ) (ob : Observer τ) (s : RunState (σ × τ)) :
    (checkTarget (u.observed ob) s).2.forget = (checkTarget u s.forget).2 := rfl

theorem Edits.forget {s s' : RunState (σ × τ)} (h : Edits (u.observed ob) content s r s') :
    Edits u content s.forget r s'.forget := by
  have hwritten := write_forget u ob (Text.trim content) s
  have hdone : (write u (Text.trim content) s.forget).1 =
      (write (u.observed ob) (Text.trim content) s).1 := by
    rw [write_fst, write_fst]
    rfl
  have hchecked := checkTarget_forget u ob (write (u.observed ob) (Text.trim content) s).2
  have hsaid : (checkTarget u (write u (Text.trim content) s.forget).2).1 =
      (checkTarget (u.observed ob) (write (u.observed ob) (Text.trim content) s).2).1 := by
    rw [checkTarget_fst, checkTarget_fst, ← hwritten]
    rfl
  rw [hwritten] at hchecked
  cases h with
  | unwritten hwrite => exact hwritten ▸ .unwritten (hdone.trans hwrite)
  | unchecked hwrite hcheck => exact hwritten ▸ .unchecked (hdone.trans hwrite) hcheck
  | uncheckable hwrite hcheck houtcome =>
    exact hchecked ▸ .uncheckable (hdone.trans hwrite) hcheck (hsaid.trans houtcome)
  | accepted hwrite hcheck houtcome hclean =>
    exact hchecked ▸ .accepted (hdone.trans hwrite) hcheck (hsaid.trans houtcome) hclean
  | @refused o diagnostics hwrite hcheck houtcome hdiagnostics =>
    change Edits u content s.forget .again
      (repair (Text.trim content) diagnostics (checkTarget (u.observed ob) _).2.forget)
    rw [hchecked]
    exact .refused (hdone.trans hwrite) hcheck (hsaid.trans houtcome) hdiagnostics

theorem Goes.forget {s s' : RunState (σ × τ)} (h : Goes (u.observed ob) s r s') :
    Goes u s.forget r s'.forget := by
  cases h with
  | spent hspent => exact .spent hspent
  | unanswered hspent hask => exact .unanswered hspent hask
  | unread hspent hask hturn => exact .unread hspent hask hturn
  | served hspent hask hturn hserve => exact .served (s := s.forget) hspent hask hturn hserve
  | unserved hspent hask hturn hserve => exact .unserved (s := s.forget) hspent hask hturn hserve
  | edited hspent hask hturn hedit => exact .edited hspent hask hturn hedit.forget

/-- From one point of a run to a later one an observer makes what it does of what the log has got. -/
def Seen (ob : Observer τ) (system : Text) (s s' : RunState (σ × τ)) : Prop :=
  ∃ added, s'.log = s.log ++ added ∧
    s'.outside.2 = ob.watch system s.session.target added s.outside.2

theorem Seen.trans {system : Text} {s₁ s₂ s₃ : RunState (σ × τ)} (h : Seen ob system s₁ s₂)
    (htarget : s₂.session.target = s₁.session.target) (h' : Seen ob system s₂ s₃) :
    Seen ob system s₁ s₃ := by
  obtain ⟨xs, hlog, ht⟩ := h
  obtain ⟨ys, hlog', ht'⟩ := h'
  refine ⟨xs ++ ys, ?_, ?_⟩
  · rw [hlog', hlog, List.append_assoc]
  · rw [ht', ht, htarget, Observer.watch_append]

theorem seen_ask (u : Setup σ) (ob : Observer τ) (s : RunState (σ × τ)) :
    Seen ob u.system s ((u.observed ob).ask s).2 := ⟨[_], rfl, rfl⟩

theorem seen_write (v : Setup (σ × τ)) (ob : Observer τ) (system content : Text)
    (s : RunState (σ × τ)) : Seen ob system s (write v content s).2 := by
  unfold write
  dsimp only
  cases (v.put s.session.target s.files content s.outside).1 with
  | error e => exact ⟨[], (List.append_nil _).symm, rfl⟩
  | ok _ => exact ⟨[_], rfl, rfl⟩

theorem seen_checkTarget (u : Setup σ) (ob : Observer τ) (s : RunState (σ × τ)) :
    Seen ob u.system s (checkTarget (u.observed ob) s).2 := ⟨[_], rfl, rfl⟩

theorem Edits.seen {s s' : RunState (σ × τ)} (h : Edits (u.observed ob) content s r s') :
    Seen ob u.system s s' := by
  have hwritten := seen_write (u.observed ob) ob u.system (Text.trim content) s
  have htarget :
      (write (u.observed ob) (Text.trim content) s).2.session.target = s.session.target := by
    rw [write_session]
  have hchecked := hwritten.trans htarget (seen_checkTarget u ob _)
  cases h with
  | unwritten hwrite => exact hwritten
  | unchecked hwrite hcheck => exact hwritten
  | uncheckable hwrite hcheck houtcome => exact hchecked
  | accepted hwrite hcheck houtcome hclean => exact hchecked
  | refused hwrite hcheck houtcome hdiagnostics => exact hchecked

theorem Goes.seen {s s' : RunState (σ × τ)} (h : Goes (u.observed ob) s r s') :
    Seen ob u.system s s' := by
  have hasked := seen_ask u ob s
  cases h with
  | spent hspent => exact ⟨[], (List.append_nil _).symm, rfl⟩
  | unanswered hspent hask => exact hasked
  | unread hspent hask hturn => exact hasked
  | served hspent hask hturn hserve => exact hasked
  | unserved hspent hask hturn hserve => exact hasked
  | edited hspent hask hturn hedit => exact hasked.trans rfl hedit.seen

/-- A round goes the same way with an observer, who makes what it does of what the log gets. -/
theorem round_joined {s s' : RunState σ} (ob : Observer τ) (t : τ) (h : u.round s = (r, s')) :
    ∃ added, s'.log = s.log ++ added ∧ (u.observed ob).round (s.joined t) =
      (r, s'.joined (ob.watch u.system s.session.target added t)) := by
  have hgoes := goes_round (u.observed ob) (s.joined t)
  obtain ⟨added, hlog, ht⟩ := hgoes.seen
  have hround := hgoes.forget.eq_round
  rw [RunState.forget_joined, h] at hround
  obtain ⟨hr, hs'⟩ := Prod.mk.inj hround
  refine ⟨added, ?_, ?_⟩
  · rw [hs']
    exact hlog
  · refine Prod.ext hr.symm ?_
    rw [← RunState.joined_forget ((u.observed ob).round (s.joined t)).2, ← hs', ht]
    rfl

theorem target_of_round {s s' : RunState σ} (h : u.round s = (r, s')) :
    s'.session.target = s.session.target := (goes_iff.2 h).target

theorem Reaches.target {s₀ s : RunState σ} {w : Option Text} (h : Reaches u s₀ w s) :
    s.session.target = s₀.session.target := by
  induction h with
  | start => rfl
  | again h hround ih => exact (target_of_round hround).trans ih

/-- A point that a run reaches is reached with any observer, who makes what it does of the log. -/
theorem Reaches.observed {s₀ s : RunState σ} {w : Option Text} (hlog : s₀.log = [])
    (h : Reaches u s₀ w s) (ob : Observer τ) (t : τ) : Reaches (u.observed ob) (s₀.joined t) w
      (s.joined (ob.watch u.system s₀.session.target s.log t)) := by
  induction h with
  | start =>
    rw [hlog]
    exact .start
  | again h hround ih =>
    obtain ⟨added, hadded, hjoined⟩ :=
      round_joined ob (ob.watch u.system s₀.session.target _ t) hround
    rw [h.target, ← Observer.watch_append, ← hadded] at hjoined
    exact ih.again hjoined

theorem run_joined {s s' : RunState σ} {x : Except Failure SessionResult} (ob : Observer τ) (n : Nat)
    (t : τ) (hrun : u.run n s = some (x, s')) : ∃ added, s'.log = s.log ++ added ∧
      (u.observed ob).run n (s.joined t) =
        some (x, s'.joined (ob.watch u.system s.session.target added t)) := by
  induction n generalizing s t with
  | zero => cases hrun
  | succ n ih =>
    rw [run] at hrun ⊢
    cases hround : u.round s with
    | mk r s₁ =>
      rw [hround] at hrun
      obtain ⟨added, hlog, hjoined⟩ := round_joined ob t hround
      rw [hjoined]
      cases r with
      | again =>
        obtain ⟨more, hmore, hrest⟩ := ih (ob.watch u.system s.session.target added t) hrun
        refine ⟨added ++ more, by rw [hmore, hlog, List.append_assoc], ?_⟩
        rw [target_of_round hround] at hrest
        rw [Observer.watch_append]
        exact hrest
      | finished result =>
        obtain ⟨rfl, rfl⟩ := Prod.mk.inj (Option.some.inj hrun)
        exact ⟨added, hlog, rfl⟩
      | failed e =>
        obtain ⟨rfl, rfl⟩ := Prod.mk.inj (Option.some.inj hrun)
        exact ⟨added, hlog, rfl⟩

/-- A run goes the same way with any observer, who makes what it does of the log. -/
theorem run_observed {s₀ s : RunState σ} {x : Except Failure SessionResult} {n : Nat}
    (hlog : s₀.log = []) (hrun : u.run n s₀ = some (x, s)) (ob : Observer τ) (t : τ) :
    (u.observed ob).run n (s₀.joined t) =
      some (x, s.joined (ob.watch u.system s₀.session.target s.log t)) := by
  obtain ⟨added, hadded, hjoined⟩ := run_joined ob n t hrun
  rw [hlog, List.nil_append] at hadded
  rwa [← hadded] at hjoined

end Setup

end Redraft
