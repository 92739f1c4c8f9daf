import Redraft.Proofs.Session.Accounts
import Redraft.Proofs.Session.Effect

/-!
A limit on the rounds decides when a run stops, and nothing else. Under a larger limit, or none, a run
goes through the same rounds: it ends as it did if its end was not the limit, and else it goes on from
where it was stopped.
-/
namespace Redraft

variable {σ : Type}

def Session.capped (limit : Option Nat) (s : Session) : Session := { s with maxRounds := limit }

def Event.capped (limit : Option Nat) : Event → Event
  | asked session f reply => asked (session.capped limit) f reply
  | wrote content f => wrote content f
  | checked outcome f => checked outcome f

def RunState.capped (limit : Option Nat) (s : RunState σ) : RunState σ :=
  { s with session := s.session.capped limit, log := s.log.map (Event.capped limit) }

theorem sight?_capped (limit : Option Nat) (system : Text) (target : Path) (e : Event) :
    (e.capped limit).sight? system target = e.sight? system target := by
  cases e <;> rfl

theorem RunState.sights_capped (limit : Option Nat) (system : Text) (s : RunState σ) :
    (s.capped limit).sights system = s.sights system := by
  simp only [sights, capped, List.filterMap_map]
  congr 1
  funext e
  exact sight?_capped limit system _ e

def Event.Raises (e : Failure) : Event → Prop
  | asked _ _ reply => reply = .error e
  | wrote .. => False
  | checked outcome _ => outcome = .error e

theorem exists_raises_iff {x : Exchange σ} {e : Failure} :
    (∃ a ∈ x.events, a.Raises e) ↔ x.Raised e := by
  obtain ⟨session, f, o, reply, wrote, checked⟩ := x
  cases wrote <;> cases checked <;>
    simp [Exchange.events, Exchange.Raised, Event.Raises, Prod.ext_iff]

theorem RunState.exists_failure?_iff {system : Text} {s : RunState σ} {e : Failure} :
    (∃ x ∈ s.sights system, x.failure? = some e) ↔ ∃ a ∈ s.log, a.Raises e := by
  have hevent (a : Event) : (∃ x, a.sight? system s.session.target = some x ∧ x.failure? = some e) ↔
      a.Raises e := by
    cases a with
    | asked session f reply => cases reply <;> simp [Event.sight?, Sight.failure?, Event.Raises]
    | wrote content f => simp [Event.sight?, Event.Raises]
    | checked outcome f => cases outcome <;> simp [Event.sight?, Sight.failure?, Event.Raises]
  constructor
  · rintro ⟨x, hx, he⟩
    obtain ⟨a, ha, hax⟩ := List.mem_filterMap.1 hx
    exact ⟨a, ha, (hevent a).1 ⟨x, hax, he⟩⟩
  · rintro ⟨a, ha, he⟩
    obtain ⟨x, hax, hx⟩ := (hevent a).2 he
    exact ⟨x, List.mem_filterMap.2 ⟨a, ha, hax⟩, hx⟩

theorem Effect.on_capped (limit : Option Nat) (e : Effect σ) (s : RunState σ) :
    e.on (s.capped limit) = ((e.on s).1, (e.on s).2.capped limit) := by
  obtain ⟨f, o, wrote, checked, verdict⟩ := e
  have hacts : (Effect.acts ⟨f, o, wrote, checked, verdict⟩).map (Event.capped limit) =
      Effect.acts ⟨f, o, wrote, checked, verdict⟩ := by
    cases wrote <;> cases checked <;> rfl
  simp only [on, RunState.capped, List.map_append, hacts]
  cases verdict <;> rfl

namespace Setup

variable {u : Setup σ} {s s' s₀ : RunState σ} {limit : Option Nat} {m : Nat}

theorem ask_capped (u : Setup σ) (limit : Option Nat) (s : RunState σ) :
    u.ask (s.capped limit) = ((u.ask s).1, (u.ask s).2.capped limit) := by
  simp only [ask, RunState.capped, RunState.note, List.map_append]
  rfl

/-- A round goes the same way under any two limits that leave one. -/
theorem round_capped (hopen : isSpent s.session = false)
    (hopen' : isSpent (s.capped limit).session = false) :
    u.round (s.capped limit) = ((u.round s).1, (u.round s).2.capped limit) := by
  have hask : (u.ask (s.capped limit)).1 = (u.ask s).1 := by rw [ask_capped]
  cases hreply : (u.ask s).1 with
  | error e =>
    rw [round_of_silence hopen hreply, round_of_silence hopen' (hask.trans hreply), ask_capped]
  | ok reply =>
    rw [round_of_reply hopen hreply, round_of_reply hopen' (hask.trans hreply), ask_capped]
    exact Effect.on_capped limit _ _

theorem written_capped (hopen : isSpent s.session = false)
    (hopen' : isSpent (s.capped limit).session = false) :
    u.written (s.capped limit) = u.written s := by
  unfold written
  rw [hopen, hopen', ask_capped]
  rfl

theorem not_isSpent_of_round {r : Round} (h : u.round s = (r, s')) (hr : ∀ e, r ≠ .failed e) :
    isSpent s.session = false := by
  cases hspent : isSpent s.session with
  | false => rfl
  | true =>
    rw [round_of_spent hspent] at h
    exact absurd (Prod.mk.inj h).1.symm (hr _)

theorem Reaches.round_capped {w : Option Text} (hm : s₀.session.maxRounds = some m)
    (hlimit : ∀ k ∈ limit, m ≤ k) (h : Reaches u s₀ w s) (hopen : isSpent s.session = false) :
    u.round (s.capped limit) = ((u.round s).1, (u.round s).2.capped limit) ∧
      u.written (s.capped limit) = u.written s := by
  have hlt := not_isSpent_iff.1 hopen m (h.maxRounds.trans hm)
  have hopen' : isSpent (s.capped limit).session = false :=
    not_isSpent_iff.2 fun k hk => Nat.lt_of_lt_of_le hlt (hlimit k hk)
  exact ⟨Setup.round_capped hopen hopen', written_capped hopen hopen'⟩

theorem Reaches.capped {w : Option Text} (hm : s₀.session.maxRounds = some m)
    (hlimit : ∀ k ∈ limit, m ≤ k) (h : Reaches u s₀ w s) :
    Reaches u (s₀.capped limit) w (s.capped limit) := by
  induction h with
  | start => exact .start
  | again h hround ih =>
    have hopen := not_isSpent_of_round hround (by simp)
    obtain ⟨hcapped, hwritten⟩ := h.round_capped hm hlimit hopen
    rw [← hwritten]
    exact ih.again (by rw [hcapped, hround])

/-- A failure of a round within the limit is not that of the limit, or somebody has raised it. -/
theorem raises_of_round {e : Failure} {limit rounds : Nat} (h : u.round s = (.failed e, s'))
    (hopen : isSpent s.session = false) (he : e = .roundLimit limit rounds) :
    ∃ a ∈ s'.log, a.Raises e := by
  rcases (goes_iff.2 h).exchanged with ⟨hspent, -, -⟩ | ⟨-, x, hx⟩
  · rw [hopen] at hspent
    cases hspent
  · have hraised : x.Raised e := by
      cases hx.leads with
      | failed hnot hlimit => exact hlimit limit rounds he
    obtain ⟨a, ha, hraises⟩ := exists_raises_iff.2 hraised
    refine ⟨a, ?_, hraises⟩
    rw [hx.log]
    exact List.mem_append_right _ ha

/-- A run is stopped by its limit, or it ends as it does under a larger one. -/
theorem Ends.capped {w : Option Text} {y : Except Failure SessionResult}
    (hm : s₀.session.maxRounds = some m) (hlimit : ∀ k ∈ limit, m ≤ k) (h : Ends u s₀ w y s) :
    (Reaches u s₀ w s ∧ isSpent s.session = true ∧ y = .error (.roundLimit m s.session.rounds)) ∨
      (Ends u (s₀.capped limit) w y (s.capped limit) ∧ ∀ l r, y = .error (.roundLimit l r) →
        ∃ a ∈ s.log, a.Raises (.roundLimit l r)) := by
  cases h with
  | finished h hround =>
    have hopen := not_isSpent_of_round hround (by simp)
    obtain ⟨hcapped, hwritten⟩ := h.round_capped hm hlimit hopen
    refine .inr ⟨?_, fun l r hy => by cases hy⟩
    rw [← hwritten]
    exact .finished (h.capped hm hlimit) (by rw [hcapped, hround])
  | @failed w p s e h hround =>
    cases hspent : isSpent p.session with
    | true =>
      have hwritten : u.written p = none := by simp [written, hspent]
      rw [round_of_spent hspent] at hround
      cases hround
      rw [hwritten, Option.none_or, h.maxRounds, hm]
      exact .inl ⟨h, hspent, rfl⟩
    | false =>
      obtain ⟨hcapped, hwritten⟩ := h.round_capped hm hlimit hspent
      refine .inr ⟨?_, ?_⟩
      · rw [← hwritten]
        exact .failed (h.capped hm hlimit) (by rw [hcapped, hround])
      · intro l r hy
        cases hy
        exact raises_of_round hround hspent rfl

/-- At a point that a run goes on from nobody has failed. -/
theorem Reaches.not_raises {w : Option Text} {e : Failure} (h₀ : s₀.Fresh) (h : Reaches u s₀ w s) :
    ∀ a ∈ s.log, ¬ a.Raises e := by
  obtain ⟨xs, hhistory, hall⟩ := h.history h₀
  intro a ha hraises
  rw [hhistory.log] at ha
  obtain ⟨x, hx, hax⟩ := List.mem_flatMap.1 ha
  have hraised := exists_raises_iff.1 ⟨a, hax, hraises⟩
  exact (hall x hx).not_raised (hhistory.lawful x hx) e hraised

theorem length_prompts_of_reaches {w : Option Text} (h₀ : s₀.Fresh) (h : Reaches u s₀ w s) :
    s.prompts.length = s.session.rounds := by
  obtain ⟨xs, hhistory, -⟩ := h.history h₀
  rw [RunState.prompts, hhistory.log, Exchange.prompts_events, List.length_map,
    hhistory.counts.rounds]

theorem rounds_of_spent {w : Option Text} (h₀ : s₀.Fresh) (hm : s₀.session.maxRounds = some m)
    (h : Reaches u s₀ w s) (hspent : isSpent s.session = true) : s.session.rounds = m := by
  obtain ⟨xs, hhistory, -⟩ := h.history h₀
  have hwithin := hhistory.within m hm
  have hle : m ≤ s.session.rounds := by
    rw [isSpent, h.maxRounds, hm] at hspent
    simpa using hspent
  rw [← hhistory.counts.rounds] at hwithin
  omega

/-- Under a larger limit, or none, a run ends as it did, with the same calls and checks and the same
files, if its end was not its limit. If it was, the limit left as many calls as it says, and the run
under the larger one comes to the same point with the same calls and checks behind it, with the same
files, pending prompt and counters; it then goes on, unless the two limits are the same. -/
theorem raised_limit_extends_run (u : Setup σ) (s₀ : RunState σ) (h₀ : s₀.Fresh) (m : Nat)
    (hm : s₀.session.maxRounds = some m) (limit : Option Nat) (hlimit : ∀ k ∈ limit, m ≤ k) :
    ∃ (y : Except Failure SessionResult) (s : RunState σ) (trace : List Sight),
      u.traced.run (m + 1) (s₀.joined []) = some (y, s.joined trace) ∧
      ((∀ l r, y = .error (.roundLimit l r) → ∃ x ∈ trace, x.failure? = some (.roundLimit l r)) →
        ∃ n, u.traced.run n ((s₀.capped limit).joined []) =
          some (y, (s.capped limit).joined trace)) ∧
      ∀ l r, y = .error (.roundLimit l r) → (∀ x ∈ trace, x.failure? ≠ some (.roundLimit l r)) →
        l = m ∧ r = m ∧ (Sight.prompts trace).length = m ∧
        (∃ w, Reaches u.traced ((s₀.capped limit).joined []) w ((s.capped limit).joined trace)) ∧
        (limit ≠ some m → isSpent (s.capped limit).session = false) := by
  obtain ⟨⟨y, s⟩, hrun⟩ :=
    Option.isSome_iff_exists.1 (isSome_run (u := u) m hm (Nat.le_add_left m _))
  have hlog : (s₀.capped limit).log = [] := by simp [RunState.capped, h₀.log]
  have htrace : u.traced.run (m + 1) (s₀.joined []) = some (y, s.joined (s.sights u.system)) := by
    rw [run_traced u _ h₀.log, hrun]
    rfl
  refine ⟨y, s, s.sights u.system, htrace, ?_⟩
  obtain ⟨w, hends⟩ := exists_run_eq_some.1 ⟨_, hrun⟩
  rcases hends.capped hm hlimit with ⟨hreaches, hspent, rfl⟩ | ⟨hends', hraised⟩
  · -- the limit has stopped the run
    constructor
    · intro h
      obtain ⟨a, ha, hraises⟩ := RunState.exists_failure?_iff.1 (h _ _ rfl)
      exact absurd hraises (hreaches.not_raises h₀ a ha)
    · intro l r hy _
      cases hy
      have hrounds := rounds_of_spent h₀ hm hreaches hspent
      refine ⟨rfl, hrounds, ?_, ⟨w, ?_⟩, ?_⟩
      · rw [RunState.prompts_sights, length_prompts_of_reaches h₀ hreaches, hrounds]
      · rw [← RunState.sights_capped limit]
        exact reaches_traced hlog (hreaches.capped hm hlimit) []
      · intro hne
        refine not_isSpent_iff.2 fun k hk => ?_
        have hle := hlimit k hk
        have hne' : m ≠ k := fun h => hne (h ▸ hk)
        change s.session.rounds < k
        omega
  · constructor
    · intro _
      obtain ⟨n, hn⟩ := exists_run_eq_some.2 ⟨w, hends'⟩
      refine ⟨n, ?_⟩
      rw [run_traced u n hlog, hn, ← RunState.sights_capped limit]
      rfl
    · intro l r hy hno
      obtain ⟨x, hx, hfailure⟩ := RunState.exists_failure?_iff.2 (hraised l r hy)
      exact absurd hfailure (hno x hx)

/-- A run that its limit stops after a refused result goes on under a limit of two rounds. -/
theorem raised_limit_extends_run_refused :
    ((RunState.oneFile true ["<RESULT>b</RESULT>"]).limitedTo 1).Fresh ∧
    ∃ (s : RunState (List Text)) (trace : List Sight) (w : Option Text), refusing.traced.run 2
        (((RunState.oneFile true ["<RESULT>b</RESULT>"]).limitedTo 1).joined []) =
          some (.error (.roundLimit 1 1), s.joined trace) ∧
      Reaches refusing.traced
        ((((RunState.oneFile true ["<RESULT>b</RESULT>"]).limitedTo 1).capped (some 2)).joined []) w
        ((s.capped (some 2)).joined trace) ∧ isSpent (s.capped (some 2)).session = false := by
  have h₀ := (RunState.fresh_oneFile true ["<RESULT>b</RESULT>"]).limitedTo 1
  obtain ⟨y, s, trace, hrun, -, hstopped⟩ := raised_limit_extends_run refusing
    ((RunState.oneFile true ["<RESULT>b</RESULT>"]).limitedTo 1) h₀ 1 rfl (some 2) (by simp)
  have hstops : (refusing.traced.run 2
      (((RunState.oneFile true ["<RESULT>b</RESULT>"]).limitedTo 1).joined [])).any (fun y =>
        stop? y.1 = some (1, 1) && y.2.outside.2.all fun x => x.failure?.isNone) = true := by
    decide +kernel
  rw [hrun, Option.any_some, Bool.and_eq_true, List.all_eq_true] at hstops
  obtain ⟨hy, hno⟩ := hstops
  obtain rfl := eq_of_stop? (of_decide_eq_true hy)
  obtain ⟨-, -, -, ⟨w, hreaches⟩, hopen⟩ := hstopped 1 1 rfl fun x hx => by
    have hnone := hno x hx
    rw [Option.isNone_iff_eq_none] at hnone
    simp [hnone]
  exact ⟨h₀, s, trace, w, hrun, hreaches, hopen (by decide)⟩

end Setup

end Redraft
