import Redraft.Proofs.Session.Exchanges

/-!
The exchanges of a run. At each of its points and at its end the log is that of a list of exchanges,
all but the last of them handled, and the counters are counts over that list. A run with a limit
comes to an end.
-/
namespace Redraft

variable {σ : Type}

/-- Before a run: nobody was asked and nothing has happened. -/
structure RunState.Fresh (s : RunState σ) : Prop where
  rounds : s.session.rounds = 0
  infoRounds : s.session.infoRounds = 0
  repairRounds : s.session.repairRounds = 0
  log : s.log = []

def RunState.limitedTo (m : Nat) (s : RunState σ) : RunState σ :=
  { s with session := { s.session with maxRounds := some m } }

theorem RunState.fresh_oneFile (check : Bool) (replies : List Text) :
    (RunState.oneFile check replies).Fresh := ⟨rfl, rfl, rfl, rfl⟩

theorem RunState.Fresh.limitedTo {s : RunState σ} (h : s.Fresh) (m : Nat) : (s.limitedTo m).Fresh :=
  ⟨h.rounds, h.infoRounds, h.repairRounds, h.log⟩

/-- What stays the same about a session from its start on. -/
structure Session.Alike (s t : Session) : Prop where
  target : s.target = t.target
  check : s.check = t.check
  maxRounds : s.maxRounds = t.maxRounds

/-- A session in its round of a number, or after so many rounds, that has the given exchanges behind it:
it has counted those that ask for context and those that were refused. -/
structure Session.Counts (u : Setup σ) (s : Session) (rounds : Nat) (xs : List (Exchange σ)) :
    Prop where
  rounds : s.rounds = rounds
  infoRounds : s.infoRounds = xs.countP (Exchange.isInfo u)
  repairRounds : s.repairRounds = xs.countP (Exchange.isRefused u)

namespace Setup

variable {u : Setup σ} {s s' s₀ : RunState σ} {r : Round} {x : Exchange σ} {xs : List (Exchange σ)}

def leaves (u : Setup σ) (s₀ : RunState σ) (xs : List (Exchange σ)) : Files × σ :=
  (xs.getLast?.map fun x => (x.filesLeft, x.left u)).getD (s₀.files, s₀.outside)

/-- Exchanges that take place one after the other: each finds the files and the state that the one
before it left. -/
def InTurn (u : Setup σ) (s₀ : RunState σ) (xs : List (Exchange σ)) : Prop :=
  ∀ (i : Nat) (x : Exchange σ), xs[i]? = some x → (x.files, x.outside) = leaves u s₀ (xs.take i)

/-- The exchanges of a run up to a point. -/
structure History (u : Setup σ) (s₀ s : RunState σ) (xs : List (Exchange σ)) : Prop where
  log : s.log = xs.flatMap Exchange.events
  lawful : ∀ x ∈ xs, x.Lawful u
  alike : ∀ x ∈ xs, x.session.Alike s₀.session
  handled : ∀ x ∈ xs.dropLast, x.Handled u
  /-- A call is made in the round of its number, with the exchanges before it behind it. -/
  called : ∀ (i : Nat) (x : Exchange σ), xs[i]? = some x → x.session.Counts u (i + 1) (xs.take i)
  inTurn : InTurn u s₀ xs
  within : ∀ m ∈ s₀.session.maxRounds, xs.length ≤ m
  here : s.session.Alike s₀.session
  counts : s.session.Counts u xs.length xs
  left : (s.files, s.outside) = leaves u s₀ xs

/-- What closes a run: the limit, after exchanges that were all handled, or the last exchange. -/
inductive Closes (u : Setup σ) (s : RunState σ) :
    List (Exchange σ) → Except Failure SessionResult → Prop
  | spent {xs : List (Exchange σ)} (hspent : isSpent s.session = true) (handled : ∀ x ∈ xs, x.Handled u) :
      Closes u s xs (.error (.roundLimit (s.session.maxRounds.getD 0) s.session.rounds))
  | finished {xs : List (Exchange σ)} {x : Exchange σ} {result : SessionResult}
      (leads : x.Leads u (.finished result)) : Closes u s (xs ++ [x]) (.ok result)
  | failed {xs : List (Exchange σ)} {x : Exchange σ} {e : Failure} (leads : x.Leads u (.failed e)) :
      Closes u s (xs ++ [x]) (.error e)

/-- Each exchange that was handled has been counted once. -/
theorem countP_add_countP_of_handled (h : ∀ x ∈ xs, x.Handled u) :
    xs.countP (Exchange.isInfo u) + xs.countP (Exchange.isRefused u) = xs.length := by
  induction xs with
  | nil => rfl
  | cons x xs ih =>
    have hx := (h x List.mem_cons_self).isInfo_add_isRefused
    have hxs := ih fun y hy => h y (List.mem_cons_of_mem x hy)
    rw [List.countP_cons, List.countP_cons, List.length_cons]
    cases hinfo : x.isInfo u <;> cases hrefused : x.isRefused u <;> simp_all <;> omega

theorem countP_concat (p : Exchange σ → Bool) (xs : List (Exchange σ)) (x : Exchange σ) :
    (xs ++ [x]).countP p = xs.countP p + (p x).toNat := by
  rw [List.countP_append, List.countP_singleton]
  cases p x <;> rfl

/-- What holds of each element with those before it holds with one more element, if it holds of that
one. -/
theorem forall_getElem?_concat {P : Nat → List (Exchange σ) → Exchange σ → Prop}
    (h : ∀ i y, xs[i]? = some y → P i (xs.take i) y) (hx : P xs.length xs x) :
    ∀ i y, (xs ++ [x])[i]? = some y → P i ((xs ++ [x]).take i) y := by
  intro i y hy
  rcases Nat.lt_trichotomy i xs.length with hi | rfl | hi
  · rw [List.getElem?_append_left hi] at hy
    rw [List.take_append_of_le_length (Nat.le_of_lt hi)]
    exact h i y hy
  · obtain rfl : x = y := by simpa using hy
    rwa [List.take_left]
  · rw [List.getElem?_eq_none (by simp; omega)] at hy
    cases hy

theorem not_isSpent_iff {session : Session} :
    isSpent session = false ↔ ∀ m ∈ session.maxRounds, session.rounds < m := by
  rw [isSpent]
  cases session.maxRounds with
  | none => simp
  | some m => simp

theorem history_start (h : s₀.Fresh) : History u s₀ s₀ [] where
  log := h.log
  lawful := by simp
  alike := by simp
  handled := by simp
  called := by simp
  inTurn := by simp [InTurn]
  within := by simp
  here := ⟨rfl, rfl, rfl⟩
  counts := ⟨h.rounds, h.infoRounds, h.repairRounds⟩
  left := rfl

theorem Exchanged.alike (h : Exchanged u s x r s') : x.session.Alike s.session := by
  rw [h.session]
  exact ⟨rfl, rfl, rfl⟩

theorem History.snoc (h : History u s₀ s xs) (hopen : isSpent s.session = false)
    (hall : ∀ y ∈ xs, y.Handled u) (hx : Exchanged u s x r s') : History u s₀ s' (xs ++ [x]) := by
  have halike : x.session.Alike s₀.session :=
    ⟨hx.alike.target.trans h.here.target, hx.alike.check.trans h.here.check,
      hx.alike.maxRounds.trans h.here.maxRounds⟩
  have hcall : x.session.Counts u (xs.length + 1) xs := by
    rw [hx.session]
    exact ⟨by rw [h.counts.rounds], h.counts.infoRounds, h.counts.repairRounds⟩
  obtain ⟨pending, hsession⟩ := hx.counters
  refine ⟨?_, ?_, ?_, ?_, ?_, ?_, ?_, ?_, ?_, ?_⟩
  · rw [hx.log, h.log, List.flatMap_append, List.flatMap_singleton]
  · intro y hy
    rcases List.mem_append.1 hy with hy | hy
    · exact h.lawful y hy
    · rw [List.mem_singleton.1 hy]
      exact hx.lawful
  · intro y hy
    rcases List.mem_append.1 hy with hy | hy
    · exact h.alike y hy
    · rw [List.mem_singleton.1 hy]
      exact halike
  · rwa [List.dropLast_concat]
  · exact forall_getElem?_concat (P := fun i before y => y.session.Counts u (i + 1) before)
      h.called hcall
  · refine forall_getElem?_concat (P := fun _ before y => (y.files, y.outside) = leaves u s₀ before)
      h.inTurn ?_
    rw [hx.files, hx.outside, h.left]
  · intro m hm
    have hlt := not_isSpent_iff.1 hopen m (h.here.maxRounds ▸ hm)
    rw [h.counts.rounds] at hlt
    rw [List.length_append, List.length_singleton]
    omega
  · rw [hsession]
    exact ⟨halike.target, halike.check, halike.maxRounds⟩
  · rw [hsession]
    refine ⟨?_, ?_, ?_⟩
    · rw [List.length_append, List.length_singleton]
      exact hcall.rounds
    · rw [countP_concat, ← hcall.infoRounds]
    · rw [countP_concat, ← hcall.repairRounds]
  · rw [hx.filesLeft, hx.left, leaves, List.getLast?_concat]
    rfl

/-- At each point of a run all exchanges were handled. -/
theorem Reaches.history {w : Option Text} (h₀ : s₀.Fresh) (h : Reaches u s₀ w s) :
    ∃ xs, History u s₀ s xs ∧ ∀ x ∈ xs, x.Handled u := by
  induction h with
  | start => exact ⟨[], history_start h₀, by simp⟩
  | again h hround ih =>
    obtain ⟨xs, hhistory, hall⟩ := ih
    rcases (goes_iff.2 hround).exchanged with ⟨-, -, hr⟩ | ⟨hopen, x, hx⟩
    · cases hr
    · refine ⟨xs ++ [x], hhistory.snoc hopen hall hx, ?_⟩
      intro y hy
      rcases List.mem_append.1 hy with hy | hy
      · exact hall y hy
      · rw [List.mem_singleton.1 hy]
        exact (hx.leads.again_iff hx.lawful).1 rfl

theorem Ends.history {w : Option Text} {y : Except Failure SessionResult} (h₀ : s₀.Fresh)
    (h : Ends u s₀ w y s) : ∃ xs, History u s₀ s xs ∧ Closes u s xs y := by
  cases h with
  | finished h hround =>
    obtain ⟨xs, hhistory, hall⟩ := h.history h₀
    rcases (goes_iff.2 hround).exchanged with ⟨-, -, hr⟩ | ⟨hopen, x, hx⟩
    · cases hr
    · exact ⟨xs ++ [x], hhistory.snoc hopen hall hx, .finished hx.leads⟩
  | failed h hround =>
    obtain ⟨xs, hhistory, hall⟩ := h.history h₀
    rcases (goes_iff.2 hround).exchanged with ⟨hspent, rfl, hr⟩ | ⟨hopen, x, hx⟩
    · cases hr
      exact ⟨xs, hhistory, .spent hspent hall⟩
    · exact ⟨xs ++ [x], hhistory.snoc hopen hall hx, .failed hx.leads⟩

theorem exists_history_of_run {n : Nat} {y : Except Failure SessionResult} (h₀ : s₀.Fresh)
    (hrun : u.run n s₀ = some (y, s)) : ∃ xs, History u s₀ s xs ∧ Closes u s xs y := by
  obtain ⟨w, hends⟩ := exists_run_eq_some.1 ⟨n, hrun⟩
  exact hends.history h₀

/-- A run comes to its end if each round that does not end it makes a number smaller. -/
theorem isSome_run_of_decreasing (I : RunState σ → Prop) (left : RunState σ → Nat)
    (hstep : ∀ s s', I s → Goes u s .again s' → I s' ∧ left s' < left s) {n : Nat} (hs : I s)
    (hn : left s < n) : (u.run n s).isSome := by
  induction n generalizing s with
  | zero => cases hn
  | succ n ih =>
    rw [run]
    cases hround : u.round s with
    | mk r s₁ =>
      cases r with
      | finished result => rfl
      | failed e => rfl
      | again =>
        obtain ⟨hs₁, hleft⟩ := hstep s s₁ hs (goes_iff.2 hround)
        exact ih hs₁ (by omega)

theorem isSome_run {m : Nat} (n : Nat) (hm : s.session.maxRounds = some m)
    (hn : m ≤ s.session.rounds + n) : (u.run (n + 1) s).isSome := by
  refine isSome_run_of_decreasing (fun s => s.session.maxRounds = some m)
    (fun s => m - s.session.rounds) ?_ hm (by omega)
  intro s s' hs hgoes
  rcases hgoes.exchanged with ⟨-, -, hr⟩ | ⟨hopen, x, hx⟩
  · cases hr
  · obtain ⟨pending, hsession⟩ := hx.counters
    have hlt : s.session.rounds < m := not_isSpent_iff.1 hopen m hs
    rw [hsession, hx.session]
    refine ⟨hs, ?_⟩
    dsimp only
    omega

end Setup

end Redraft
