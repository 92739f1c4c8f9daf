import Redraft.Proofs.Session.Effect

/-!
Two runs side by side. Their sessions differ in how many rounds have served requests; if their rounds
correspond as long as both go on, so do their ends.
-/
namespace Redraft

variable {σ τ : Type}

/-- Of two sessions the second has been through some more rounds, which all served requests. -/
structure Session.Ahead (k : Nat) (s t : Session) : Prop where
  target : t.target = s.target
  maxRounds : t.maxRounds = s.maxRounds
  rounds : t.rounds = s.rounds + k
  infoRounds : t.infoRounds = s.infoRounds + k
  repairRounds : t.repairRounds = s.repairRounds

def SessionResult.later (k : Nat) (r : SessionResult) : SessionResult :=
  { r with rounds := r.rounds + k, infoRounds := r.infoRounds + k }

def Round.map (change : SessionResult → SessionResult) : Round → Round
  | again => again
  | finished result => finished (change result)
  | failed e => failed e

namespace Session.Ahead

variable {k : Nat} {s t : Session}

theorem asked (h : Ahead k s t) :
    Ahead k { s with rounds := s.rounds + 1 } { t with rounds := t.rounds + 1 } := by
  have hrounds : t.rounds + 1 = s.rounds + 1 + k := by rw [h.rounds, Nat.add_right_comm]
  exact ⟨h.target, h.maxRounds, hrounds, h.infoRounds, h.repairRounds⟩

theorem book (h : Ahead k s t) (v : Verdict) : Ahead k (v.book s) (v.book t) := by
  have hinfo : t.infoRounds + 1 = s.infoRounds + 1 + k := by rw [h.infoRounds, Nat.add_right_comm]
  have hrepair : t.repairRounds + 1 = s.repairRounds + 1 := by rw [h.repairRounds]
  cases v with
  | served answer => exact ⟨h.target, h.maxRounds, h.rounds, hinfo, h.repairRounds⟩
  | unserved e => exact ⟨h.target, h.maxRounds, h.rounds, hinfo, h.repairRounds⟩
  | refused prompt => exact ⟨h.target, h.maxRounds, h.rounds, h.infoRounds, hrepair⟩
  | finished content outcome => exact h
  | failed e => exact h

theorem round (h : Ahead k s t) (v : Verdict) :
    v.round t = (v.round s).map (SessionResult.later k) := by
  cases v with
  | finished content outcome =>
    simp only [Verdict.round, result, Round.map, SessionResult.later, h.target, h.rounds,
      h.infoRounds, h.repairRounds]
  | _ => rfl

end Session.Ahead

namespace Setup

variable {u : Setup σ} {v : Setup τ} {change : SessionResult → SessionResult}
  {P : RunState σ → Prop} {R Q : RunState σ → RunState τ → Prop}

/-- Points in the relation `R` go on to points in `R` or end at points in `Q`, as far as the first run
keeps to `P`. -/
theorem run_related (hP : ∀ {n s y s'}, u.run n s = some (y, s') → P s' → P (u.round s).2)
    (hstep : ∀ {s t}, R s t → P (u.round s).2 → (v.round t).1 = (u.round s).1.map change ∧
      Q (u.round s).2 (v.round t).2 ∧
      ((u.round s).1 = .again → R (u.round s).2 (v.round t).2))
    {s s' : RunState σ} {t : RunState τ} {y : Except Failure SessionResult} {n : Nat} (h : R s t)
    (hrun : u.run n s = some (y, s')) (hs' : P s') :
    ∃ t', v.run n t = some (y.map change, t') ∧ Q s' t' := by
  induction n generalizing s t with
  | zero => cases hrun
  | succ n ih =>
    -- `P` is known of the end of the run only, and is carried back to each of its rounds
    obtain ⟨hround, hend, hagain⟩ := hstep h (hP hrun hs')
    rw [run] at hrun ⊢
    cases hs : u.round s with
    | mk r s₁ =>
      cases ht : v.round t with
      | mk r' t₁ =>
        rw [hs] at hrun hround hend hagain
        rw [ht] at hround hend hagain
        dsimp only at hround hend hagain
        subst hround
        cases r with
        | again => exact ih (hagain rfl) hrun
        | finished result =>
          cases hrun
          exact ⟨t₁, rfl, hend⟩
        | failed e =>
          cases hrun
          exact ⟨t₁, rfl, hend⟩

end Setup

end Redraft
