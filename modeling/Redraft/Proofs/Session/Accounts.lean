import Redraft.Proofs.Session.History
import Redraft.Proofs.Session.Trace

/-!
The rounds of a run are accounted for. When the agent is asked, all earlier calls have been counted,
each once; a run with a limit asks at most so often and ends, and it fails for its limit just when so
many replies were handled and none of them ended it.
-/
namespace Redraft

variable {σ : Type}

/-- Each call is made in the round of its number. By then the calls before it have all been counted:
those that asked for context, and those whose result was refused. -/
def CallsCounted (u : Setup σ) (xs : List (Exchange σ)) : Prop :=
  ∀ (i : Nat) (x : Exchange σ), xs[i]? = some x → x.session.rounds = i + 1 ∧
    x.session.infoRounds = (xs.take i).countP (Exchange.isInfo u) ∧
    x.session.repairRounds = (xs.take i).countP (Exchange.isRefused u) ∧
    x.session.infoRounds + x.session.repairRounds = i

theorem Exchange.prompts_events (xs : List (Exchange σ)) :
    (xs.flatMap events).filterMap Event.prompt? = xs.map (·.session.pending) := by
  induction xs with
  | nil => rfl
  | cons x xs ih =>
    rw [List.flatMap_cons, List.filterMap_append, ih, List.map_cons, events]
    cases x.wrote <;> cases x.checked <;> rfl

namespace Setup

variable {u : Setup σ} {s s₀ : RunState σ} {x : Exchange σ} {xs : List (Exchange σ)} {m : Nat}

theorem History.callsCounted (h : History u s₀ s xs) : CallsCounted u xs := by
  intro i x hx
  have hcounts := h.called i x hx
  have hi : i < xs.length := (List.getElem?_eq_some_iff.1 hx).1
  have hsum : (xs.take i).countP (Exchange.isInfo u) +
      (xs.take i).countP (Exchange.isRefused u) = i := by
    rw [countP_add_countP_of_handled (u := u), List.length_take, Nat.min_eq_left (Nat.le_of_lt hi)]
    intro y hy
    refine h.handled y ?_
    rw [List.dropLast_eq_take]
    exact List.take_subset_take_left xs (by omega) hy
  refine ⟨hcounts.rounds, hcounts.infoRounds, hcounts.repairRounds, ?_⟩
  rw [hcounts.infoRounds, hcounts.repairRounds, hsum]

/-- At most the last call is missing from the counts. -/
theorem History.bounds (h : History u s₀ s xs) :
    s.session.rounds ≤ s.session.infoRounds + s.session.repairRounds + 1 ∧
      s.session.infoRounds + s.session.repairRounds ≤ s.session.rounds := by
  rw [h.counts.rounds, h.counts.infoRounds, h.counts.repairRounds]
  rcases List.eq_nil_or_concat xs with rfl | ⟨ys, x, rfl⟩
  · simp
  · have hhandled := h.handled
    rw [List.concat_eq_append, List.dropLast_concat] at hhandled
    have hsum := countP_add_countP_of_handled hhandled
    have hx := Exchange.isInfo_add_isRefused_le u x
    rw [List.concat_eq_append, countP_concat, countP_concat, List.length_append, List.length_singleton]
    omega

theorem History.sum_eq (h : History u s₀ s xs) (hall : ∀ x ∈ xs, x.Handled u) :
    s.session.infoRounds + s.session.repairRounds = xs.length := by
  rw [h.counts.infoRounds, h.counts.repairRounds, countP_add_countP_of_handled hall]

theorem uncounted_of_finished {result : SessionResult} (hl : x.Lawful u)
    (h : x.Leads u (.finished result)) : x.isInfo u = false ∧ x.isRefused u = false := by
  cases h with
  | @finished content g outcome hwrote hchecked hclean =>
    obtain ⟨text, hedit, -⟩ := (hl.wrote content g).1 hwrote
    refine ⟨Exchange.isInfo_of_edit hedit, ?_⟩
    cases outcome with
    | none => exact Exchange.isRefused_of_unchecked hchecked
    | some o => rw [Exchange.isRefused_of_ok hedit hchecked, hclean o rfl]

theorem rounds_of_finished {result : SessionResult} (h : x.Leads u (.finished result)) :
    result.rounds = x.session.rounds ∧ result.infoRounds = x.session.infoRounds ∧
      result.repairRounds = x.session.repairRounds := by
  cases h with
  | finished hwrote hchecked hclean => exact ⟨rfl, rfl, rfl⟩

theorem History.result_counts {result : SessionResult} (h : History u s₀ s xs)
    (hcloses : Closes u s xs (.ok result)) : result.rounds = xs.length ∧
      result.rounds = result.infoRounds + result.repairRounds + 1 ∧
      result.infoRounds = xs.countP (Exchange.isInfo u) ∧
      result.repairRounds = xs.countP (Exchange.isRefused u) := by
  cases hcloses with
  | @finished ys x result leads =>
    have hlawful : x.Lawful u := h.lawful x (by simp)
    obtain ⟨hrounds, hinfo, hrepair⟩ := rounds_of_finished leads
    obtain ⟨hnoInfo, hnoRepair⟩ := uncounted_of_finished hlawful leads
    obtain ⟨hr, hi, hp, hsum⟩ := h.callsCounted ys.length x (by simp)
    rw [List.take_left] at hi hp
    refine ⟨?_, ?_, ?_, ?_⟩
    · rw [hrounds, hr, List.length_append, List.length_singleton]
    · rw [hrounds, hinfo, hrepair, hr, hsum]
    · rw [hinfo, hi, countP_concat, hnoInfo, Bool.toNat_false, Nat.add_zero]
    · rw [hrepair, hp, countP_concat, hnoRepair, Bool.toNat_false, Nat.add_zero]

/-- A run ends for its limit, and not because its agent or its checker says so, just when as many
replies as the limit allows were handled. -/
theorem History.limit_iff {y : Except Failure SessionResult} (h : History u s₀ s xs)
    (hcloses : Closes u s xs y) (hm : s₀.session.maxRounds = some m) (limit rounds : Nat) :
    (y = .error (.roundLimit limit rounds) ∧ ∀ x ∈ xs, ¬ x.Raised (.roundLimit limit rounds)) ↔
      (limit = m ∧ rounds = m ∧ xs.length = m ∧ ∀ x ∈ xs, x.Handled u) := by
  have hmax : s.session.maxRounds = some m := h.here.maxRounds.trans hm
  have hwithin := h.within m hm
  cases hcloses with
  | spent hspent handled =>
    rw [isSpent, hmax] at hspent
    have hle : m ≤ s.session.rounds := by simpa using hspent
    have hlen : xs.length = m := by
      rw [h.counts.rounds] at hle
      omega
    rw [hmax, Option.getD_some, h.counts.rounds, hlen]
    constructor
    · rintro ⟨hy, -⟩
      cases hy
      exact ⟨rfl, rfl, rfl, handled⟩
    · rintro ⟨rfl, rfl, -, -⟩
      exact ⟨rfl, fun x hx => (handled x hx).not_raised (h.lawful x hx) _⟩
  | @finished ys x result leads =>
    constructor
    · rintro ⟨hy, -⟩
      cases hy
    · rintro ⟨-, -, -, handled⟩
      have hx : x ∈ ys ++ [x] := by simp
      exact absurd (handled x hx) (Exchange.not_handled_of_finished (h.lawful x hx) leads)
  | @failed ys x e leads =>
    have hx : x ∈ ys ++ [x] := by simp
    cases leads with
    | failed hnot hlimit =>
      constructor
      · rintro ⟨hy, hraised⟩
        cases hy
        exact absurd (hlimit limit rounds rfl) (hraised x hx)
      · rintro ⟨-, -, -, handled⟩
        exact absurd (handled x hx) hnot

/-- The rounds of a run are accounted for, at each of its points and at its end. The log is that of
exchanges whose calls are counted, and it is what any observer of the agent and of the checker learns.
A run with a limit has no more calls than that, and ends. -/
theorem rounds_accounted (u : Setup σ) (s₀ : RunState σ) (h₀ : s₀.Fresh) :
    (∀ w s, Reaches u s₀ w s → ∃ xs, s.log = xs.flatMap Exchange.events ∧ CallsCounted u xs ∧
      s.session.rounds = xs.length ∧
      ∀ {τ : Type} (ob : Observer τ) (t : τ), Reaches (u.observed ob) (s₀.joined t) w
        (s.joined (ob.watch u.system s₀.session.target s.log t))) ∧
    (∀ n y s, u.run n s₀ = some (y, s) → ∃ xs, s.log = xs.flatMap Exchange.events ∧
      CallsCounted u xs ∧ s.session.rounds = xs.length ∧
      (∀ {τ : Type} (ob : Observer τ) (t : τ), (u.observed ob).run n (s₀.joined t) =
        some (y, s.joined (ob.watch u.system s₀.session.target s.log t))) ∧
      (∀ result, y = .ok result → result.rounds = xs.length ∧
        result.rounds = result.infoRounds + result.repairRounds + 1 ∧
        result.infoRounds = xs.countP (Exchange.isInfo u) ∧
        result.repairRounds = xs.countP (Exchange.isRefused u)) ∧
      (∀ e, y = .error e →
        s.session.rounds ≤ s.session.infoRounds + s.session.repairRounds + 1 ∧
        s.session.infoRounds + s.session.repairRounds ≤ s.session.rounds) ∧
      ∀ m, s₀.session.maxRounds = some m → xs.length ≤ m ∧ ∀ limit rounds,
        ((y = .error (.roundLimit limit rounds) ∧ ∀ x ∈ xs, ¬ x.Raised (.roundLimit limit rounds)) ↔
          (limit = m ∧ rounds = m ∧ xs.length = m ∧ ∀ x ∈ xs, x.Handled u)) ∧
        ((∀ x ∈ xs, x.Handled u) → s.session.infoRounds + s.session.repairRounds = xs.length)) ∧
    ∀ m, s₀.session.maxRounds = some m → (u.run (m + 1) s₀).isSome := by
  refine ⟨?_, ?_, ?_⟩
  · intro w s h
    obtain ⟨xs, hhistory, -⟩ := h.history h₀
    exact ⟨xs, hhistory.log, hhistory.callsCounted, hhistory.counts.rounds,
      fun ob t => h.observed h₀.log ob t⟩
  · intro n y s hrun
    obtain ⟨xs, hhistory, hcloses⟩ := exists_history_of_run h₀ hrun
    refine ⟨xs, hhistory.log, hhistory.callsCounted, hhistory.counts.rounds,
      fun ob t => run_observed h₀.log hrun ob t, ?_, ?_, ?_⟩
    · rintro result rfl
      exact hhistory.result_counts hcloses
    · intro e _
      exact hhistory.bounds
    · intro m hm
      refine ⟨hhistory.within m hm, fun limit rounds => ⟨hhistory.limit_iff hcloses hm limit rounds, ?_⟩⟩
      exact hhistory.sum_eq
  · intro m hm
    exact isSome_run m hm (Nat.le_add_left m _)

def stop? : Except Failure SessionResult → Option (Nat × Nat)
  | .error (.roundLimit limit rounds) => some (limit, rounds)
  | _ => none

theorem eq_of_stop? {y : Except Failure SessionResult} {l r : Nat} (h : stop? y = some (l, r)) :
    y = .error (.roundLimit l r) := by
  unfold stop? at h
  split at h
  · cases h
    rfl
  · cases h

/-- A result that is refused uses up the one round that there is. -/
theorem rounds_accounted_limited :
    ((RunState.oneFile true ["<RESULT> b </RESULT>"]).limitedTo 1).Fresh ∧
    ∃ s xs, refusing.run 2 ((RunState.oneFile true ["<RESULT> b </RESULT>"]).limitedTo 1) =
        some (.error (.roundLimit 1 1), s) ∧ s.log = xs.flatMap Exchange.events ∧ CallsCounted refusing xs ∧
      xs.map (·.session.pending) = [Text.ofString "go"] ∧ s.session.repairRounds = 1 := by
  have h₀ := (RunState.fresh_oneFile true ["<RESULT> b </RESULT>"]).limitedTo 1
  have hrun : (refusing.run 2 ((RunState.oneFile true ["<RESULT> b </RESULT>"]).limitedTo 1)).map
      (fun y => (stop? y.1, y.2.prompts, y.2.session.repairRounds)) =
        some (some (1, 1), [Text.ofString "go"], 1) := by
    decide +kernel
  obtain ⟨⟨y, s⟩, hrun, heq⟩ := Option.map_eq_some_iff.1 hrun
  obtain ⟨hy, hrest⟩ := Prod.mk.inj heq
  obtain ⟨hprompts, hrepair⟩ := Prod.mk.inj hrest
  obtain rfl := eq_of_stop? hy
  obtain ⟨xs, hlog, hcalls, -⟩ := (rounds_accounted refusing _ h₀).2.1 2 _ s hrun
  rw [RunState.prompts, hlog, Exchange.prompts_events] at hprompts
  exact ⟨h₀, s, xs, hrun, hlog, hcalls, hprompts, hrepair⟩

end Setup

end Redraft
