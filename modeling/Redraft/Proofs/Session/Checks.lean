import Redraft.Proofs.Session.Accounts
import Redraft.Proofs.Session.Prompts

/-!
A checked session ends with an accepted file only. With checking on, each write is followed by one
check, which sees what was just written; the last one of a run that gives a result found nothing. With
checking off nothing is checked, and a run that gives a result has written once.
-/
namespace Redraft

variable {σ : Type}

namespace Exchange

/-- A result that can be written is written, and it is on disk then. With checking on, what is checked
is the files as the write left them, once and with nothing in between, and only after a write. With
checking off nothing is checked. -/
structure ChecksWrite (u : Setup σ) (x : Exchange σ) (target : Path) (check : Bool) : Prop where
  reply : x.reply = (x.asked u).1
  writes : ∀ text, x.turn? u = some (.edit text) →
    (u.put target x.files (Text.trim text) (x.asked u).2).1 = .ok () → x.wrote.isSome = true
  onDisk : ∀ content g, x.wrote = some (content, g) →
    x.files.writeAtomic target content = (.ok (), g.tree) ∧ x.files.OnDisk target g content
  checked : check = true → ∀ g, (∃ outcome, x.checked = some (outcome, g)) ↔
    ∃ content, x.wrote = some (content, g)
  said : ∀ outcome g, x.checked = some (outcome, g) →
    outcome = (u.check g target (x.asked u).2).1
  unchecked : check = false → x.checked = none

def reports : Except Failure Outcome × Files → Bool
  | (.ok o, _) => o.hasDiagnostics
  | (.error _, _) => false

variable {u : Setup σ} {x : Exchange σ}

theorem Lawful.isSome_checked (h : x.Lawful u) (hcheck : x.session.check = true) (g : Files) :
    (∃ outcome, x.checked = some (outcome, g)) ↔ ∃ content, x.wrote = some (content, g) := by
  have hchecked := h.checked
  rw [if_pos hcheck] at hchecked
  cases hc : x.checked with
  | none =>
    rw [hc, Option.map_none, eq_comm, Option.map_eq_none_iff] at hchecked
    simp [hchecked]
  | some c =>
    obtain ⟨outcome, g₁⟩ := c
    rw [hc, Option.map_some] at hchecked
    obtain ⟨⟨content, g₂⟩, hwrote, hg⟩ := Option.map_eq_some_iff.1 hchecked.symm
    obtain rfl : g₂ = g₁ := hg
    simp [hwrote]

theorem Lawful.onDisk {content : Text} {g : Files} (h : x.Lawful u) (hp : x.session.target.Plain)
    (hwrote : x.wrote = some (content, g)) :
    x.files.writeAtomic x.session.target content = (.ok (), g.tree) ∧
      x.files.OnDisk x.session.target g content := by
  obtain ⟨text, -, -, hwrite, hcwd⟩ := (h.wrote content g).1 hwrote
  obtain ⟨l, bytes, hw⟩ := Files.exists_wrote hwrite
  exact ⟨Files.writeAtomic_of_writeAtomicUnless hwrite, hw.onDisk hp hcwd⟩

theorem Lawful.checksWrite (h : x.Lawful u) (hp : x.session.target.Plain) :
    x.ChecksWrite u x.session.target x.session.check where
  reply := h.reply
  writes text hturn hwrite := by
    let g : Files :=
      ⟨(u.put x.session.target x.files (Text.trim text) (x.asked u).2).2, x.files.cwd⟩
    have hwrote := (h.wrote (Text.trim text) g).2 ⟨text, hturn, rfl, Prod.ext hwrite rfl, rfl⟩
    rw [hwrote]
    rfl
  onDisk content g hwrote := h.onDisk hp hwrote
  checked hcheck := h.isSome_checked hcheck
  said := h.said
  unchecked hcheck := by
    have hchecked := h.checked
    rw [hcheck, if_neg Bool.false_ne_true] at hchecked
    exact Option.map_eq_none_iff.1 hchecked

/-- Only a result is checked, so that a check that reports is a refusal. -/
theorem Lawful.isRefused_eq (h : x.Lawful u) : x.isRefused u = (x.checked.map reports).getD false := by
  cases hc : x.checked with
  | none => rw [isRefused_of_unchecked hc]; rfl
  | some c =>
    obtain ⟨outcome, g⟩ := c
    cases outcome with
    | error e => rw [isRefused_of_error hc]; rfl
    | ok o =>
      cases hw : x.wrote with
      | none =>
        rw [h.checked_eq_none hw] at hc
        cases hc
      | some w =>
        obtain ⟨text, hturn, -⟩ := (h.wrote w.1 w.2).1 hw
        rw [isRefused_of_ok hturn hc]
        rfl

theorem Handled.isSome_wrote (h : x.Handled u) (hl : x.Lawful u) : x.wrote.isSome = x.isRefused u := by
  cases h with
  | served hturn hserve =>
    rw [isRefused_of_info hturn, hl.wrote_eq_none fun text => by simp [hturn]]
    rfl
  | refused hturn hwrote hchecked hdiagnostics =>
    rw [isRefused_of_ok hturn hchecked, hdiagnostics, hwrote]
    rfl

end Exchange

namespace Setup

variable {u : Setup σ} {s s₀ : RunState σ} {x : Exchange σ} {xs : List (Exchange σ)}

theorem History.checksWrite (hp : s₀.session.target.Plain) (h : History u s₀ s xs) :
    ∀ x ∈ xs, x.ChecksWrite u s₀.session.target s₀.session.check := by
  intro x hx
  have halike := h.alike x hx
  rw [← halike.target] at hp
  rw [← halike.target, ← halike.check]
  exact (h.lawful x hx).checksWrite hp

theorem History.countP_isRefused (h : History u s₀ s xs) :
    xs.countP (Exchange.isRefused u) = (xs.filterMap Exchange.checked).countP Exchange.reports := by
  rw [List.countP_filterMap]
  refine List.countP_congr fun x hx => ?_
  rw [(h.lawful x hx).isRefused_eq]

theorem History.countP_wrote {result : SessionResult} (h : History u s₀ s xs)
    (hcloses : Closes u s xs (.ok result)) :
    xs.countP (·.wrote.isSome) = xs.countP (Exchange.isRefused u) + 1 := by
  cases hcloses with
  | @finished ys x result leads =>
    have hx : x ∈ ys ++ [x] := by simp
    have hhandled := h.handled
    rw [List.dropLast_concat] at hhandled
    have hbefore : ys.countP (·.wrote.isSome) = ys.countP (Exchange.isRefused u) := by
      refine List.countP_congr fun y hy => ?_
      rw [(hhandled y hy).isSome_wrote (h.lawful y (List.mem_append_left _ hy))]
    have hrefused := (uncounted_of_finished (h.lawful x hx) leads).2
    cases leads with
    | finished hwrote hchecked hclean =>
      rw [countP_concat, countP_concat, hbefore, hrefused, hwrote]
      rfl

/-- The last check of a run that gives a result found nothing, and the result has its outcome. -/
theorem History.last_check {result : SessionResult} (h : History u s₀ s xs)
    (hcloses : Closes u s xs (.ok result)) (hcheck : s₀.session.check = true) :
    ∃ o g, (xs.filterMap Exchange.checked).getLast? = some (.ok o, g) ∧ result.outcome = some o ∧
      ((∃ code, o = .clean code) ∨ o = .notApplicable) := by
  cases hcloses with
  | @finished ys x result leads =>
    have hx : x ∈ ys ++ [x] := by simp
    have hon : x.session.check = true := (h.alike x hx).check.trans hcheck
    cases leads with
    | @finished content g outcome hwrote hchecked hclean =>
      obtain ⟨said, hsaid⟩ := ((h.lawful x hx).isSome_checked hon g).2 ⟨content, hwrote⟩
      cases outcome with
      | none =>
        rw [hchecked] at hsaid
        cases hsaid
      | some o =>
        refine ⟨o, g, ?_, rfl, ?_⟩
        · rw [List.filterMap_append, List.filterMap_cons, hchecked]
          simp
        · have hno := hclean o rfl
          cases o with
          | clean code => exact .inl ⟨code, rfl⟩
          | diagnostics text code => cases hno
          | notApplicable => exact .inr rfl

theorem History.no_check {result : SessionResult} (h : History u s₀ s xs)
    (hcloses : Closes u s xs (.ok result)) (hcheck : s₀.session.check = false) :
    xs.countP (Exchange.isRefused u) = 0 ∧ result.outcome = none := by
  have hunchecked : ∀ x ∈ xs, x.checked = none := by
    intro x hx
    have hchecked := (h.lawful x hx).checked
    rw [(h.alike x hx).check.trans hcheck, if_neg Bool.false_ne_true] at hchecked
    exact Option.map_eq_none_iff.1 hchecked
  constructor
  · rw [List.countP_eq_zero]
    intro x hx
    simp [Exchange.isRefused_of_unchecked (hunchecked x hx)]
  · cases hcloses with
    | @finished ys x result leads =>
      have hnone := hunchecked x (by simp)
      cases leads with
      | @finished content g outcome hwrote hchecked hclean =>
        rw [hchecked] at hnone
        exact Option.map_eq_none_iff.1 hnone

/-- At each point of a run and at its end, the log is that of exchanges in turn that check just what
they write, and it is what any observer of the agent and of the checker learns. A run that gives a result
gives, with checking on, the outcome of the last check, which accepted the file, and has written once
more than checks reported diagnostics; with checking off it has written once and gives no outcome. -/
theorem checks_follow_writes (u : Setup σ) (s₀ : RunState σ) (hp : s₀.session.target.Plain)
    (h₀ : s₀.Fresh) :
    (∀ w s, Reaches u s₀ w s → ∃ xs : List (Exchange σ), s.log = xs.flatMap Exchange.events ∧
      (∀ x ∈ xs, x.ChecksWrite u s₀.session.target s₀.session.check) ∧ InTurn u s₀ xs ∧
      ∀ {τ : Type} (ob : Observer τ) (t : τ), Reaches (u.observed ob) (s₀.joined t) w
        (s.joined (ob.watch u.system s₀.session.target s.log t))) ∧
    ∀ n y s, u.run n s₀ = some (y, s) → ∃ xs : List (Exchange σ), s.log = xs.flatMap Exchange.events ∧
      (∀ x ∈ xs, x.ChecksWrite u s₀.session.target s₀.session.check) ∧ InTurn u s₀ xs ∧
      (∀ {τ : Type} (ob : Observer τ) (t : τ), (u.observed ob).run n (s₀.joined t) =
        some (y, s.joined (ob.watch u.system s₀.session.target s.log t))) ∧
      ∀ result, y = .ok result →
        (s₀.session.check = true →
          (∃ o g, (xs.filterMap Exchange.checked).getLast? = some (.ok o, g) ∧
            result.outcome = some o ∧ ((∃ code, o = .clean code) ∨ o = .notApplicable)) ∧
          result.repairRounds + 1 = xs.countP (·.wrote.isSome) ∧
          result.repairRounds = (xs.filterMap Exchange.checked).countP Exchange.reports) ∧
        (s₀.session.check = false → xs.countP (·.wrote.isSome) = 1 ∧ result.repairRounds = 0 ∧
          result.outcome = none) := by
  constructor
  · intro w s h
    obtain ⟨xs, hhistory, -⟩ := h.history h₀
    exact ⟨xs, hhistory.log, hhistory.checksWrite hp, hhistory.inTurn,
      fun ob t => h.observed h₀.log ob t⟩
  · intro n y s hrun
    obtain ⟨xs, hhistory, hcloses⟩ := exists_history_of_run h₀ hrun
    refine ⟨xs, hhistory.log, hhistory.checksWrite hp, hhistory.inTurn,
      fun ob t => run_observed h₀.log hrun ob t, ?_⟩
    rintro result rfl
    have hrepair := (hhistory.result_counts hcloses).2.2.2
    have hwrote := hhistory.countP_wrote hcloses
    refine ⟨fun hcheck => ⟨hhistory.last_check hcloses hcheck, ?_, ?_⟩, fun hcheck => ?_⟩
    · rw [hrepair, hwrote]
    · rw [hrepair, hhistory.countP_isRefused]
    · obtain ⟨hzero, hnone⟩ := hhistory.no_check hcloses hcheck
      exact ⟨by rw [hwrote, hzero], by rw [hrepair, hzero], hnone⟩

/-- A setup with replies written in advance and a checker that refuses all results but the last. -/
def insisting : Setup (List Text) :=
  { refusing with check := fun _ _ replies =>
      (.ok (if replies.isEmpty then .clean 0 else .diagnostics "refused" none), replies) }

/-- Of two results the second is accepted: two writes and one repair. -/
theorem checks_follow_writes_accepted :
    (RunState.oneFile true ["<RESULT>b</RESULT>", "<RESULT>c</RESULT>"]).session.target.Plain ∧
    (RunState.oneFile true ["<RESULT>b</RESULT>", "<RESULT>c</RESULT>"]).Fresh ∧
    ∃ (result : SessionResult) (s : _) (xs : List (Exchange (List Text))),
      insisting.run 2 (.oneFile true ["<RESULT>b</RESULT>", "<RESULT>c</RESULT>"]) =
        some (.ok result, s) ∧ s.log = xs.flatMap Exchange.events ∧ result.repairRounds = 1 ∧
      result.outcome = some (.clean 0) ∧ xs.countP (·.wrote.isSome) = 2 := by
  have hp : (RunState.oneFile true ["<RESULT>b</RESULT>", "<RESULT>c</RESULT>"]).session.target.Plain :=
    Path.plain_ofText "a"
  have h₀ := RunState.fresh_oneFile true ["<RESULT>b</RESULT>", "<RESULT>c</RESULT>"]
  have hresult : (insisting.run 2 (.oneFile true ["<RESULT>b</RESULT>", "<RESULT>c</RESULT>"])).map
      (fun y => y.1.toOption.map fun r => (r.repairRounds, r.outcome)) =
        some (some (1, some (.clean 0))) := by
    decide +kernel
  refine ⟨hp, h₀, ?_⟩
  cases hrun : insisting.run 2 (.oneFile true ["<RESULT>b</RESULT>", "<RESULT>c</RESULT>"]) with
  | none => rw [hrun] at hresult; cases hresult
  | some y =>
    obtain ⟨y, s⟩ := y
    obtain ⟨xs, hlog, -, -, -, hends⟩ := (checks_follow_writes insisting _ hp h₀).2 2 y s hrun
    rw [hrun] at hresult
    cases y with
    | error e => cases hresult
    | ok result =>
      obtain ⟨hrepair, houtcome⟩ : result.repairRounds = 1 ∧ result.outcome = some (.clean 0) := by
        simpa [Except.toOption] using hresult
      have hwrote := ((hends result rfl).1 rfl).2.1
      rw [hrepair] at hwrote
      exact ⟨result, s, xs, rfl, hlog, hrepair, houtcome, hwrote.symm⟩

end Setup

end Redraft
