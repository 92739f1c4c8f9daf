import Redraft.Proofs.Files.Write
import Redraft.Session.Basic

/-!
The ways a round can go, and the points that a run reaches. Each round asks once and writes at most
once; a run is reached round by round, with the content that was last written.
-/
namespace Redraft

variable {σ : Type} {u : Setup σ} {s s' s₀ : RunState σ} {content : Text}

namespace Setup

@[simp]
theorem ask_files (u : Setup σ) (s : RunState σ) : (u.ask s).2.files = s.files := rfl

@[simp]
theorem ask_session (u : Setup σ) (s : RunState σ) :
    (u.ask s).2.session = { s.session with rounds := s.session.rounds + 1 } := rfl

theorem put_cases (u : Setup σ) (p : Path) (f : Files) (content : Text) (o : σ) :
    (∃ e, u.put p f content o = (.error e, f.tree)) ∨
    ∃ l bytes t, u.put p f content o = (.ok (), t) ∧ f.Wrote p content l bytes t :=
  Files.writeAtomicUnless_cases _ f p content

@[simp]
theorem write_fst (u : Setup σ) (content : Text) (s : RunState σ) :
    (write u content s).1 = (u.put s.session.target s.files content s.outside).1 := by
  unfold write
  dsimp only
  split <;> simp_all

@[simp]
theorem write_files (u : Setup σ) (content : Text) (s : RunState σ) : (write u content s).2.files =
    { s.files with tree := (u.put s.session.target s.files content s.outside).2 } := by
  unfold write
  dsimp only
  split <;> rfl

@[simp]
theorem write_session (u : Setup σ) (content : Text) (s : RunState σ) :
    (write u content s).2.session = s.session := by
  unfold write
  dsimp only
  split <;> rfl

@[simp]
theorem write_outside (u : Setup σ) (content : Text) (s : RunState σ) :
    (write u content s).2.outside = s.outside := by
  unfold write
  dsimp only
  split <;> rfl

@[simp]
theorem checkTarget_fst (u : Setup σ) (s : RunState σ) :
    (checkTarget u s).1 = (u.check s.files s.session.target s.outside).1 := rfl

@[simp]
theorem checkTarget_files (u : Setup σ) (s : RunState σ) :
    (checkTarget u s).2.files = s.files := rfl

@[simp]
theorem checkTarget_session (u : Setup σ) (s : RunState σ) :
    (checkTarget u s).2.session = s.session := rfl

@[simp]
theorem checkTarget_outside (u : Setup σ) (s : RunState σ) :
    (checkTarget u s).2.outside = (u.check s.files s.session.target s.outside).2 := rfl

theorem exists_snd {α β : Type} {x : α × β} {a : α} (h : x.1 = a) : ∃ b, x = (a, b) :=
  ⟨x.2, Prod.ext h rfl⟩

/-- The ways a result can be applied, each with what the round leads to. -/
inductive Edits (u : Setup σ) (content : Text) (s : RunState σ) : Round → RunState σ → Prop
  | unwritten {e : Failure} (hwrite : (write u (Text.trim content) s).1 = .error e) :
      Edits u content s (.failed e) (write u (Text.trim content) s).2
  | unchecked (hwrite : (write u (Text.trim content) s).1 = .ok ())
      (hcheck : s.session.check = false) :
      Edits u content s (.finished (s.session.result (Text.trim content) none))
        (write u (Text.trim content) s).2
  | uncheckable {e : Failure} (hwrite : (write u (Text.trim content) s).1 = .ok ())
      (hcheck : s.session.check = true)
      (houtcome : (checkTarget u (write u (Text.trim content) s).2).1 = .error e) :
      Edits u content s (.failed e) (checkTarget u (write u (Text.trim content) s).2).2
  | accepted {o : Outcome} (hwrite : (write u (Text.trim content) s).1 = .ok ())
      (hcheck : s.session.check = true)
      (houtcome : (checkTarget u (write u (Text.trim content) s).2).1 = .ok o)
      (hclean : o.diagnostics? = none) :
      Edits u content s (.finished (s.session.result (Text.trim content) (some o)))
        (checkTarget u (write u (Text.trim content) s).2).2
  | refused {o : Outcome} {diagnostics : Text} (hwrite : (write u (Text.trim content) s).1 = .ok ())
      (hcheck : s.session.check = true)
      (houtcome : (checkTarget u (write u (Text.trim content) s).2).1 = .ok o)
      (hdiagnostics : o.diagnostics? = some diagnostics) :
      Edits u content s .again
        (repair (Text.trim content) diagnostics (checkTarget u (write u (Text.trim content) s).2).2)

theorem edits_edit (u : Setup σ) (content : Text) (s : RunState σ) :
    Edits u content s (edit u content s).1 (edit u content s).2 := by
  unfold edit apply
  cases hw : write u (Text.trim content) s with
  | mk done s₁ =>
    have hdone : (write u (Text.trim content) s).1 = done := by rw [hw]
    have hs₁ : (write u (Text.trim content) s).2 = s₁ := by rw [hw]
    cases done with
    | error e => exact hs₁ ▸ .unwritten hdone
    | ok _ =>
      have hsession : s₁.session = s.session := by rw [← hs₁, write_session]
      cases hcheck : s.session.check with
      | false =>
        simp only [hsession, hcheck, Bool.false_eq_true, if_false, Option.bind_none]
        exact hs₁ ▸ .unchecked hdone hcheck
      | true =>
        simp only [hsession, hcheck, if_true]
        cases hc : checkTarget u s₁ with
        | mk outcome s₂ =>
          have houtcome : (checkTarget u (write u (Text.trim content) s).2).1 = outcome := by
            rw [hs₁, hc]
          have hs₂ : (checkTarget u (write u (Text.trim content) s).2).2 = s₂ := by rw [hs₁, hc]
          cases outcome with
          | error e => exact hs₂ ▸ .uncheckable hdone hcheck houtcome
          | ok o =>
            have hsession₂ : s₂.session = s.session := by rw [← hs₂, checkTarget_session, write_session]
            simp only [Except.map, Option.bind_some, hsession₂]
            cases hd : o.diagnostics? with
            | none => exact hs₂ ▸ .accepted hdone hcheck houtcome hd
            | some diagnostics => exact hs₂ ▸ .refused hdone hcheck houtcome hd

theorem Edits.eq_edit {r : Round} (h : Edits u content s r s') : edit u content s = (r, s') := by
  unfold edit apply
  have hsession := write_session u (Text.trim content) s
  cases h with
  | unwritten hwrite =>
    obtain ⟨s₁, hw⟩ := exists_snd hwrite
    rw [hw]
  | unchecked hwrite hcheck =>
    obtain ⟨s₁, hw⟩ := exists_snd hwrite
    rw [hw] at hsession ⊢
    dsimp only at hsession
    simp [hsession, hcheck]
  | uncheckable hwrite hcheck houtcome =>
    obtain ⟨s₁, hw⟩ := exists_snd hwrite
    rw [hw] at hsession houtcome ⊢
    obtain ⟨s₂, hc⟩ := exists_snd houtcome
    dsimp only at hsession hc
    simp [hsession, hcheck, hc, Except.map]
  | accepted hwrite hcheck houtcome hclean =>
    obtain ⟨s₁, hw⟩ := exists_snd hwrite
    rw [hw] at hsession houtcome ⊢
    obtain ⟨s₂, hc⟩ := exists_snd houtcome
    dsimp only at hsession hc
    have hsession₂ : s₂.session = s.session := by
      rw [← hsession, ← checkTarget_session u s₁, hc]
    simp [hsession, hcheck, hc, Except.map, hclean, hsession₂]
  | refused hwrite hcheck houtcome hdiagnostics =>
    obtain ⟨s₁, hw⟩ := exists_snd hwrite
    rw [hw] at hsession houtcome ⊢
    obtain ⟨s₂, hc⟩ := exists_snd houtcome
    dsimp only at hsession hc
    simp [hsession, hcheck, hc, Except.map, hdiagnostics]

theorem Edits.files {r : Round} (h : Edits u content s r s') : s'.session.target = s.session.target ∧
    s'.files = { s.files with
      tree := (u.put s.session.target s.files (Text.trim content) s.outside).2 } := by
  cases h <;> simp [repair]

/-- The ways a round can go, each with what it leads to. -/
inductive Goes (u : Setup σ) (s : RunState σ) : Round → RunState σ → Prop
  | spent (hspent : isSpent s.session = true) :
      Goes u s (.failed (.roundLimit (s.session.maxRounds.getD 0) s.session.rounds)) s
  | unanswered {e : Failure} (hspent : isSpent s.session = false) (hask : (u.ask s).1 = .error e) :
      Goes u s (.failed e) (u.ask s).2
  | unread {reply : Text} {e : ReplyError} (hspent : isSpent s.session = false)
      (hask : (u.ask s).1 = .ok reply) (hturn : Turn.ofReply u.room.json reply = .error e) :
      Goes u s (.failed (.reply e)) (u.ask s).2
  | served {reply answer : Text} {requests : List Request} (hspent : isSpent s.session = false)
      (hask : (u.ask s).1 = .ok reply) (hturn : Turn.ofReply u.room.json reply = .ok (.info requests))
      (hserve : Source.serve u.room.links s.files u.language s.session.target.parent requests =
        .ok answer) :
      Goes u s .again { (u.ask s).2 with session :=
        { (u.ask s).2.session with infoRounds := s.session.infoRounds + 1, pending := answer } }
  | unserved {reply : Text} {requests : List Request} {e : Failure}
      (hspent : isSpent s.session = false) (hask : (u.ask s).1 = .ok reply)
      (hturn : Turn.ofReply u.room.json reply = .ok (.info requests))
      (hserve : Source.serve u.room.links s.files u.language s.session.target.parent requests =
        .error e) :
      Goes u s (.failed e) { (u.ask s).2 with session :=
        { (u.ask s).2.session with infoRounds := s.session.infoRounds + 1 } }
  | edited {reply content : Text} {r : Round} {s' : RunState σ} (hspent : isSpent s.session = false)
      (hask : (u.ask s).1 = .ok reply) (hturn : Turn.ofReply u.room.json reply = .ok (.edit content))
      (hedit : Edits u content (u.ask s).2 r s') : Goes u s r s'

theorem goes_round (u : Setup σ) (s : RunState σ) : Goes u s (u.round s).1 (u.round s).2 := by
  unfold round
  cases hspent : isSpent s.session with
  | true => exact .spent hspent
  | false =>
    simp only [Bool.false_eq_true, if_false]
    cases ha : u.ask s with
    | mk answer a =>
      have hask : (u.ask s).1 = answer := by rw [ha]
      have hs : (u.ask s).2 = a := by rw [ha]
      cases answer with
      | error e => exact hs ▸ .unanswered hspent hask
      | ok reply =>
        dsimp only
        unfold handle
        cases hturn : Turn.ofReply u.room.json reply with
        | error e => exact hs ▸ .unread hspent hask hturn
        | ok turn =>
          subst hs
          cases turn with
          | edit content => exact .edited hspent hask hturn (edits_edit u content _)
          | info requests =>
            simp only [serve, ask_files, ask_session]
            cases hserve : Source.serve u.room.links s.files u.language s.session.target.parent
                requests with
            | error e => exact .unserved hspent hask hturn hserve
            | ok answer => exact .served hspent hask hturn hserve

theorem Goes.target {r : Round} (h : Goes u s r s') : s'.session.target = s.session.target := by
  cases h with
  | edited hspent hask hturn hedit => exact hedit.files.1
  | _ => rfl

theorem Goes.eq_round {r : Round} (h : Goes u s r s') : u.round s = (r, s') := by
  unfold round handle
  cases h with
  | spent hspent => rw [if_pos hspent]
  | unanswered hspent hask =>
    obtain ⟨a, ha⟩ := exists_snd hask
    simp [hspent, ha]
  | unread hspent hask hturn =>
    obtain ⟨a, ha⟩ := exists_snd hask
    simp [hspent, ha, hturn]
  | served hspent hask hturn hserve =>
    have hfiles := ask_files u s
    have hsession := ask_session u s
    obtain ⟨a, ha⟩ := exists_snd hask
    rw [ha] at hfiles hsession
    dsimp only at hfiles hsession
    simp [hspent, ha, hturn, serve, hfiles, hsession, hserve]
  | unserved hspent hask hturn hserve =>
    have hfiles := ask_files u s
    have hsession := ask_session u s
    obtain ⟨a, ha⟩ := exists_snd hask
    rw [ha] at hfiles hsession
    dsimp only at hfiles hsession
    simp [hspent, ha, hturn, serve, hfiles, hsession, hserve]
  | edited hspent hask hturn hedit =>
    have hedit := hedit.eq_edit
    obtain ⟨a, ha⟩ := exists_snd hask
    rw [ha] at hedit
    simp [hspent, ha, hturn, hedit]

theorem goes_iff {r : Round} : Goes u s r s' ↔ u.round s = (r, s') := by
  constructor
  · exact Goes.eq_round
  · intro h
    have hgoes := goes_round u s
    rwa [h] at hgoes

/-- The content that a round writes: that of a result, without the blanks around it, if its write
succeeds. -/
def written (u : Setup σ) (s : RunState σ) : Option Text :=
  if isSpent s.session then none
  else match (u.ask s).1 with
    | .error _ => none
    | .ok reply => match Turn.ofReply u.room.json reply with
      | .ok (.edit content) =>
        match (u.put s.session.target s.files (Text.trim content) (u.ask s).2.outside).1 with
        | .ok () => some (Text.trim content)
        | .error _ => none
      | _ => none

/-- The points of a run between its rounds, with the content that was last written. -/
inductive Reaches (u : Setup σ) (s₀ : RunState σ) : Option Text → RunState σ → Prop
  | start : Reaches u s₀ none s₀
  | again {w : Option Text} {s s' : RunState σ} (h : Reaches u s₀ w s)
      (hround : u.round s = (.again, s')) : Reaches u s₀ ((u.written s).or w) s'

/-- The end of a run, with the content that was last written. -/
inductive Ends (u : Setup σ) (s₀ : RunState σ) :
    Option Text → Except Failure SessionResult → RunState σ → Prop
  | finished {w : Option Text} {s s' : RunState σ} {result : SessionResult} (h : Reaches u s₀ w s)
      (hround : u.round s = (.finished result, s')) :
      Ends u s₀ ((u.written s).or w) (.ok result) s'
  | failed {w : Option Text} {s s' : RunState σ} {e : Failure} (h : Reaches u s₀ w s)
      (hround : u.round s = (.failed e, s')) : Ends u s₀ ((u.written s).or w) (.error e) s'

theorem ends_of_run {w : Option Text} {x : Except Failure SessionResult} (n : Nat)
    (h : Reaches u s₀ w s) (hrun : u.run n s = some (x, s')) : ∃ w, Ends u s₀ w x s' := by
  induction n generalizing w s with
  | zero => cases hrun
  | succ n ih =>
    rw [run] at hrun
    cases hround : u.round s with
    | mk r s₁ =>
      rw [hround] at hrun
      cases r with
      | again => exact ih (.again h hround) hrun
      | finished result =>
        obtain ⟨rfl, rfl⟩ := Prod.mk.inj (Option.some.inj hrun)
        exact ⟨_, .finished h hround⟩
      | failed e =>
        obtain ⟨rfl, rfl⟩ := Prod.mk.inj (Option.some.inj hrun)
        exact ⟨_, .failed h hround⟩

theorem run_of_reaches {w : Option Text} {y : Except Failure SessionResult × RunState σ}
    (h : Reaches u s₀ w s) {n : Nat} (hrun : u.run n s = some y) : ∃ n, u.run n s₀ = some y := by
  induction h generalizing n with
  | start => exact ⟨n, hrun⟩
  | again _ hround ih => exact ih (n := n + 1) (by rw [run, hround]; exact hrun)

/-- A run with enough rounds ends where its points do. -/
theorem exists_run_eq_some {x : Except Failure SessionResult} :
    (∃ n, u.run n s₀ = some (x, s')) ↔ ∃ w, Ends u s₀ w x s' := by
  constructor
  · rintro ⟨n, hrun⟩
    exact ends_of_run n .start hrun
  · rintro ⟨w, h⟩
    cases h with
    | finished h hround => exact run_of_reaches h (n := 1) (by rw [run, hround])
    | failed h hround => exact run_of_reaches h (n := 1) (by rw [run, hround])

/-- More room does not change the end of a run. -/
theorem run_add {y : Except Failure SessionResult × RunState σ} {n : Nat} (k : Nat)
    (h : u.run n s = some y) : u.run (n + k) s = some y := by
  induction n generalizing s with
  | zero => cases h
  | succ n ih =>
    rw [Nat.succ_add, run]
    rw [run] at h
    cases hround : u.round s with
    | mk r s₁ =>
      rw [hround] at h
      cases r with
      | again => exact ih h
      | finished result => exact h
      | failed e => exact h

theorem run_unique {y z : Except Failure SessionResult × RunState σ} {m n : Nat}
    (hy : u.run m s = some y) (hz : u.run n s = some z) : y = z := by
  have hy' := run_add n hy
  have hz' := run_add m hz
  rw [Nat.add_comm, hy'] at hz'
  exact Option.some.inj hz'

def refusing : Setup (List Text) where
  agent := Agent.scripted
  system := "system"
  language := {}
  room := ⟨9, 9, 9⟩
  check _ _ o := (.ok (.diagnostics "refused" none), o)

end Setup

def RunState.oneFile (check : Bool) (replies : List Text) : RunState (List Text) where
  session := { target := .ofText "a", pending := "go", check := check }
  files := ⟨⟨[(["a"], .file [120] 0o640)]⟩, []⟩
  outside := replies

end Redraft
