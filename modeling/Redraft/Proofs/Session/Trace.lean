import Redraft.Proofs.Session.Observed

/-!
The trace of a run: each call of the agent and each check, with what it was given and what came of
it, as the agent and the checkers see them. The trace of a run is what its log says, and a run goes
the same way whether it is traced or not.
-/
namespace Redraft

variable {σ τ : Type}

/-- A call of the agent, or a check. -/
inductive Sight where
  | asked (files : Files) (system prompt : Text) (reply : Except Failure Text)
  | checked (files : Files) (path : Path) (outcome : Except Failure Outcome)

namespace Sight

def prompt? : Sight → Option Text
  | asked _ _ prompt _ => some prompt
  | checked .. => none

def check? : Sight → Option (Files × Path × Except Failure Outcome)
  | asked .. => none
  | checked f p outcome => some (f, p, outcome)

def failure? : Sight → Option Failure
  | asked _ _ _ (.error e) => some e
  | checked _ _ (.error e) => some e
  | _ => none

def isQuiet : Sight → Bool
  | asked .. => true
  | checked _ _ (.ok o) => !o.hasDiagnostics
  | checked _ _ (.error _) => false

def prompts (trace : List Sight) : List Text := trace.filterMap prompt?

theorem prompts_append (xs ys : List Sight) : prompts (xs ++ ys) = prompts xs ++ prompts ys :=
  List.filterMap_append

end Sight

def tracer : Observer (List Sight) where
  asked f system prompt reply trace := trace ++ [.asked f system prompt reply]
  checked f p outcome trace := trace ++ [.checked f p outcome]

/-- What is seen of an event of a run with a system prompt and a target. A write is not seen. -/
def Event.sight? (system : Text) (target : Path) : Event → Option Sight
  | asked session f reply => some (.asked f system session.pending reply)
  | wrote .. => none
  | checked outcome f => some (.checked f target outcome)

theorem watch_tracer (system : Text) (target : Path) (log : List Event) (trace : List Sight) :
    tracer.watch system target log trace = trace ++ log.filterMap (Event.sight? system target) := by
  induction log generalizing trace with
  | nil => exact (List.append_nil trace).symm
  | cons e log ih =>
    have hstep : tracer.watch system target (e :: log) trace =
        tracer.watch system target log (tracer.see system target trace e) := rfl
    rw [hstep, ih]
    cases e with
    | wrote content f => rfl
    | asked session f reply => exact List.append_assoc trace _ _
    | checked outcome f => exact List.append_assoc trace _ _

def Event.prompt? : Event → Option Text
  | asked session _ _ => some session.pending
  | _ => none

def Event.isAct : Event → Bool
  | asked .. => false
  | wrote .. => true
  | checked .. => true

namespace RunState

def sights (system : Text) (s : RunState σ) : List Sight :=
  s.log.filterMap (Event.sight? system s.session.target)

def prompts (s : RunState σ) : List Text := s.log.filterMap Event.prompt?

/-- These prompts and the one that is due. -/
def due (s : RunState σ) : List Text := s.prompts ++ [s.session.pending]

def acts (s : RunState σ) : List Event := s.log.filter Event.isAct

theorem checks_sights (system : Text) (s : RunState σ) :
    (s.sights system).filterMap Sight.check? =
      s.acts.filterMap fun e => (e.sight? system s.session.target).bind Sight.check? := by
  rw [sights, List.filterMap_filterMap, acts, List.filterMap_filter]
  congr 1
  funext e
  cases e <;> rfl

theorem dropLast_due (s : RunState σ) : s.due.dropLast = s.prompts := List.dropLast_concat

theorem prompts_sights (system : Text) (s : RunState σ) :
    Sight.prompts (s.sights system) = s.prompts := by
  rw [Sight.prompts, sights, List.filterMap_filterMap, prompts]
  congr 1
  funext e
  cases e <;> rfl

end RunState

namespace Setup

variable {u : Setup σ} {s : RunState σ} {n : Nat}

def traced (u : Setup σ) : Setup (σ × List Sight) := u.observed tracer

/-- Without its observer a run goes the same way. -/
theorem run_forget (u : Setup σ) (ob : Observer τ) (n : Nat) (s : RunState (σ × τ)) :
    ((u.observed ob).run n s).map (fun (x, s') => (x, s'.forget)) = u.run n s.forget := by
  induction n generalizing s with
  | zero => rfl
  | succ n ih =>
    rw [run, run, (goes_round (u.observed ob) s).forget.eq_round]
    cases (u.observed ob).round s with
    | mk r s' =>
      cases r with
      | again => exact ih s'
      | finished result => rfl
      | failed e => rfl

theorem round_traced (u : Setup σ) (hlog : s.log = []) (trace : List Sight) :
    u.traced.round (s.joined trace) =
      ((u.round s).1, (u.round s).2.joined (trace ++ (u.round s).2.sights u.system)) := by
  have hround : u.round s = ((u.round s).1, (u.round s).2) := rfl
  obtain ⟨added, hadded, hjoined⟩ := round_joined tracer trace hround
  rw [hlog, List.nil_append] at hadded
  rw [watch_tracer, ← hadded, ← target_of_round hround] at hjoined
  exact hjoined

theorem log_round_of_run {x : Except Failure SessionResult} {s' : RunState σ}
    (h : u.run n s = some (x, s')) : (u.round s).2.log <+: s'.log := by
  cases n with
  | zero => cases h
  | succ n =>
    rw [run] at h
    cases hround : u.round s with
    | mk r s₁ =>
      rw [hround] at h
      cases r with
      | again =>
        obtain ⟨added, hlog, -⟩ := run_joined tracer n [] h
        exact ⟨added, hlog.symm⟩
      | finished result =>
        cases h
        exact List.prefix_refl _
      | failed e =>
        cases h
        exact List.prefix_refl _

theorem target_of_run {x : Except Failure SessionResult} {s' : RunState σ}
    (h : u.run n s = some (x, s')) : s'.session.target = s.session.target := by
  obtain ⟨w, hends⟩ := exists_run_eq_some.1 ⟨n, h⟩
  cases hends with
  | finished hreaches hround => exact (target_of_round hround).trans hreaches.target
  | failed hreaches hround => exact (target_of_round hround).trans hreaches.target

theorem run_traced (u : Setup σ) (n : Nat) (hlog : s.log = []) (trace : List Sight) :
    u.traced.run n (s.joined trace) =
      (u.run n s).map fun (x, s') => (x, s'.joined (trace ++ s'.sights u.system)) := by
  cases hrun : u.run n s with
  | none =>
    have hforget := run_forget u tracer n (s.joined trace)
    rw [RunState.forget_joined, hrun] at hforget
    exact Option.map_eq_none_iff.1 hforget
  | some y =>
    obtain ⟨x, s'⟩ := y
    rw [traced, run_observed hlog hrun tracer trace, watch_tracer, ← target_of_run hrun]
    rfl

theorem run_of_traced {x : Except Failure SessionResult} {s' : RunState σ} {trace trace' : List Sight}
    (hlog : s.log = []) (h : u.traced.run n (s.joined trace) = some (x, s'.joined trace')) :
    u.run n s = some (x, s') ∧ trace' = trace ++ s'.sights u.system := by
  rw [run_traced u n hlog] at h
  obtain ⟨⟨x₁, s₁⟩, hrun, heq⟩ := Option.map_eq_some_iff.1 h
  obtain ⟨hx, hjoined⟩ := Prod.mk.inj heq
  have hs : s₁ = s' := congrArg RunState.forget hjoined
  have htrace : trace ++ s₁.sights u.system = trace' := congrArg (·.outside.2) hjoined
  subst hx hs
  exact ⟨hrun, htrace.symm⟩

/-- The point that a run is at after some rounds, unless it has come to its end by then. -/
def after (u : Setup σ) : Nat → RunState σ → Option (RunState σ)
  | 0, s => some s
  | k + 1, s => (after u k s).bind fun p =>
    match u.round p with
    | (.again, p) => some p
    | _ => none

theorem after_succ_eq_some {k : Nat} {p : RunState σ} :
    u.after (k + 1) s = some p ↔ ∃ p₀, u.after k s = some p₀ ∧ u.round p₀ = (.again, p) := by
  rw [after, Option.bind_eq_some_iff]
  refine exists_congr fun p₀ => and_congr_right fun _ => ?_
  cases u.round p₀ with
  | mk r p' => cases r <;> simp

theorem run_of_after {k : Nat} {p : RunState σ} (h : u.after k s = some p) (m : Nat) :
    u.run (k + m) s = u.run m p := by
  induction k generalizing p m with
  | zero =>
    cases h
    rw [Nat.zero_add]
  | succ k ih =>
    obtain ⟨p₀, hp₀, hround⟩ := after_succ_eq_some.1 h
    rw [Nat.add_right_comm, Nat.add_assoc, ih hp₀, run, hround]

theorem run_eq_some_of_after {k : Nat} {p : RunState σ} {y : Except Failure SessionResult × RunState σ}
    (h : u.after k s = some p) (hrun : u.run n s = some y) :
    ∃ m, n = k + m ∧ u.run m p = some y := by
  have hle : k ≤ n := by
    refine Nat.le_of_not_lt fun hlt => ?_
    obtain ⟨j, rfl⟩ := Nat.exists_eq_add_of_le (Nat.le_of_lt hlt)
    have hnone := run_of_after h 0
    rw [Nat.add_zero, run_add j hrun] at hnone
    cases hnone
  obtain ⟨m, rfl⟩ := Nat.exists_eq_add_of_le hle
  exact ⟨m, rfl, (run_of_after h m).symm.trans hrun⟩

theorem after_traced {k : Nat} {p : RunState σ} (hlog : s.log = []) (h : u.after k s = some p)
    (trace : List Sight) :
    u.traced.after k (s.joined trace) = some (p.joined (trace ++ p.sights u.system)) := by
  induction k generalizing p with
  | zero =>
    cases h
    rw [RunState.sights, hlog, List.filterMap_nil, List.append_nil]
    rfl
  | succ k ih =>
    obtain ⟨p₀, hp₀, hround⟩ := after_succ_eq_some.1 h
    obtain ⟨added, hadded, hjoined⟩ := round_joined tracer (trace ++ p₀.sights u.system) hround
    refine after_succ_eq_some.2 ⟨_, ih hp₀, ?_⟩
    rw [watch_tracer, List.append_assoc, ← target_of_round hround] at hjoined
    rw [traced, hjoined, RunState.sights, RunState.sights, hadded, List.filterMap_append,
      target_of_round hround]

theorem reaches_traced {w : Option Text} {s₀ : RunState σ} (hlog : s₀.log = [])
    (h : Reaches u s₀ w s) (trace : List Sight) : Reaches u.traced (s₀.joined trace) w
      (s.joined (trace ++ s.sights u.system)) := by
  have hobserved := h.observed hlog tracer trace
  rwa [watch_tracer, ← h.target] at hobserved

end Setup

end Redraft
