import Redraft.Proofs.Session.Related
import Redraft.Proofs.Session.Scripted
import Redraft.Proofs.Session.Start

/-!
Checks that report nothing do not touch the edit. A session whose checks find nothing, or do not
apply, goes as it does without checks; only its first prompt says that there are no errors.
-/
namespace Redraft

variable {σ ω : Type}

def SessionResult.unchecked (r : SessionResult) : SessionResult := { r with outcome := none }

def Verdict.unchecked : Verdict → Verdict
  | finished content _ => finished content none
  | v => v

theorem Verdict.round_unchecked (v : Verdict) (session : Session) :
    v.unchecked.round session = (v.round session).map SessionResult.unchecked := by
  cases v <;> rfl

theorem Verdict.book_unchecked (v : Verdict) (session : Session) :
    v.unchecked.book session = v.book session := by
  cases v <;> rfl

theorem Verdict.next?_unchecked (v : Verdict) : v.unchecked.next? = v.next? := by
  cases v <;> rfl

def Event.isQuiet : Event → Bool
  | checked (.ok o) _ => !o.hasDiagnostics
  | checked (.error _) _ => false
  | _ => true

theorem RunState.isQuiet_of_sights {system : Text} {s : RunState σ}
    (h : ∀ x ∈ s.sights system, x.isQuiet) : ∀ e ∈ s.log, e.isQuiet := by
  intro e he
  cases e with
  | asked session f reply => rfl
  | wrote content f => rfl
  | checked outcome f =>
    have hx := h _ (List.mem_filterMap.2 ⟨_, he, rfl⟩)
    cases outcome with
    | error e => exact hx
    | ok o => exact hx

/-- The texts of the second list, with a tail at the first of them. -/
def Extended (tail : Text) (xs ys : List Text) : Prop := xs = ys.modifyHead (· ++ tail)

theorem Extended.append {tail : Text} {xs ys : List Text} (h : Extended tail xs ys) (hys : ys ≠ [])
    (zs : List Text) : Extended tail (xs ++ zs) (ys ++ zs) := by
  obtain ⟨y, ys, rfl⟩ := List.exists_cons_of_ne_nil hys
  cases h
  rfl

theorem Extended.dropLast {tail : Text} {xs ys : List Text} (h : Extended tail xs ys) :
    Extended tail xs.dropLast ys.dropLast := by
  cases h
  cases ys with
  | nil => rfl
  | cons y ys => cases ys <;> rfl

/-- Of two points in runs the first is in one with checks and the second in one without. The files,
the replies and the books are the same, and the host is as it was. -/
structure RunState.Unchecked (host : ω) (s t : RunState (Outside ω)) : Prop where
  books : s.session.Ahead 0 t.session
  files : t.files = s.files
  replies : t.outside.replies = s.outside.replies
  host : t.outside.host = host
  check : s.session.check = true
  check' : t.session.check = false

open RunState (Unchecked)

theorem RunState.Unchecked.isSpent {host : ω} {s t : RunState (Outside ω)} (h : Unchecked host s t) :
    Setup.isSpent t.session = Setup.isSpent s.session := by
  rw [Setup.isSpent, Setup.isSpent, h.books.maxRounds, h.books.rounds, Nat.add_zero]

/-- The first effect is the second without its check, so that it leaves what is outside alone. -/
def Effect.SkipsCheck (o : σ) (e' e : Effect σ) : Prop :=
  e'.files = e.files ∧ e'.outside = o ∧ e'.verdict = e.verdict.unchecked

theorem Effect.SkipsCheck.on {host : ω} {s t : RunState (Outside ω)} {e e' : Effect (Outside ω)}
    {o : Outside ω} (he : SkipsCheck o e' e) (h : Unchecked host s t)
    (hreplies : o.replies = e.outside.replies) (hhost : o.host = host) :
    (e'.on t).1 = (e.on s).1.map SessionResult.unchecked ∧ Unchecked host (e.on s).2 (e'.on t).2 := by
  obtain ⟨hfiles, houtside, hverdict⟩ := he
  have hround : e'.verdict.round t.session =
      (e.verdict.round s.session).map SessionResult.unchecked := by
    rw [hverdict, Verdict.round_unchecked, h.books.round]
    cases e.verdict.round s.session <;> rfl
  have hbooks : Session.Ahead 0 (e.verdict.book s.session) (e'.verdict.book t.session) := by
    rw [hverdict, Verdict.book_unchecked]
    exact h.books.book e.verdict
  refine ⟨hround, hbooks, hfiles, ?_, ?_, ?_, ?_⟩
  · exact (congrArg Outside.replies houtside).trans hreplies
  · exact (congrArg Outside.host houtside).trans hhost
  · exact (Verdict.check_book ..).trans h.check
  · exact (Verdict.check_book ..).trans h.check'

open Effect (SkipsCheck)

/-- A host that refuses the same writes whatever commands it has run. -/
def Host.Steady (h : Host ω) : Prop :=
  ∀ f p content s s', h.refuses f p content s' = h.refuses f p content s

namespace Setup

def Steady (u : Setup σ) : Prop :=
  ∀ f p content o o', u.refuses f p content o' = u.refuses f p content o

theorem steady_of_ofConfig {h : Host ω} {a : Agent (Outside ω)} {c : Config} {guide : Option Path}
    {f : Files} {u : Setup (Outside ω)} (hh : h.Steady) (hu : ofConfig h a c guide f = .ok u) :
    u.Steady := by
  obtain ⟨system, -, hsystem⟩ := bind_eq_ok.1 hu
  cases hsystem
  exact fun f p content o o' => hh f p content o.host o'.host

theorem writeEffect_unchecked {u : Setup σ} (hu : u.Steady) (target : Path) (f : Files)
    (content : Text) (o o' : σ)
    (hquiet : ∀ e ∈ (u.writeEffect target true f content o).acts, e.isQuiet) :
    SkipsCheck o' (u.writeEffect target false f content o')
      (u.writeEffect target true f content o) := by
  have hput : u.put target f content o' = u.put target f content o := by
    rw [put, put, hu]
  unfold writeEffect at hquiet ⊢
  rw [hput]
  dsimp only at hquiet ⊢
  cases hwrite : (u.put target f content o).1 with
  | error e => exact ⟨rfl, rfl, rfl⟩
  | ok _ =>
    rw [hwrite] at hquiet
    have hchecked := hquiet _ (List.mem_append_right _ List.mem_cons_self)
    refine ⟨rfl, rfl, ?_⟩
    dsimp only at hchecked ⊢
    generalize (u.check _ target o).1 = outcome at hchecked ⊢
    cases outcome with
    | error e => cases hchecked
    | ok outcome =>
      cases outcome with
      | clean n => rfl
      | notApplicable => rfl
      | diagnostics text n => cases hchecked

theorem effect_unchecked {u : Setup σ} (hu : u.Steady) (target : Path) (f : Files) (reply : Text) (o o' : σ)
    (hquiet : ∀ e ∈ (u.effect target true f reply o).acts, e.isQuiet) :
    SkipsCheck o' (u.effect target false f reply o') (u.effect target true f reply o) := by
  unfold effect at hquiet ⊢
  cases hturn : Turn.ofReply u.room.json reply with
  | error e => exact ⟨rfl, rfl, rfl⟩
  | ok turn =>
    cases turn with
    | info requests =>
      dsimp only
      cases Source.serve u.room.links f u.language target.parent requests <;> exact ⟨rfl, rfl, rfl⟩
    | edit content =>
      rw [hturn] at hquiet
      exact writeEffect_unchecked hu target f (Text.trim content) o o' hquiet

section Runs

variable {u : Setup (Outside ω)} {host : ω} {s t s' : RunState (Outside ω)}

theorem ask_unchecked (hagent : u.agent = Outside.scripted) (h : Unchecked host s t) :
    (u.ask t).1 = (u.ask s).1 ∧ Unchecked host (u.ask s).2 (u.ask t).2 := by
  have hreply : (u.ask t).1 = (u.ask s).1 := by
    unfold ask
    rw [hagent]
    change (Agent.nextReply t.outside.replies).1 = (Agent.nextReply s.outside.replies).1
    rw [h.replies]
  refine ⟨hreply, h.books.asked, h.files, ?_, ?_, h.check, h.check'⟩
  · rw [outside_ask_scripted hagent, outside_ask_scripted hagent, h.replies]
  · rw [outside_ask_scripted hagent]
    exact h.host

theorem round_unchecked (hagent : u.agent = Outside.scripted) (hkeeps : KeepsReplies u)
    (hsteady : u.Steady) (h : Unchecked host s t)
    (hquiet : ∀ e ∈ (u.round s).2.log, e.isQuiet) :
    (u.round t).1 = (u.round s).1.map SessionResult.unchecked ∧
      Unchecked host (u.round s).2 (u.round t).2 ∧
      ((u.round s).1 = .again → ∃ prompt,
        (u.round s).2.due = s.due ++ [prompt] ∧ (u.round t).2.due = t.due ++ [prompt]) := by
  have hspent := h.isSpent
  cases hopen : isSpent s.session with
  | true =>
    rw [round_of_spent hopen, round_of_spent (hspent.trans hopen), h.books.maxRounds,
      h.books.rounds, Nat.add_zero]
    exact ⟨rfl, h, fun hagain => by cases hagain⟩
  | false =>
    have hopen' := hspent.trans hopen
    obtain ⟨hreply, hasked⟩ := ask_unchecked hagent h
    cases hask : (u.ask s).1 with
    | error e =>
      rw [round_of_silence hopen hask, round_of_silence hopen' (hreply.trans hask)]
      exact ⟨rfl, hasked, fun hagain => by cases hagain⟩
    | ok reply =>
      rw [round_of_reply hopen hask] at hquiet ⊢
      rw [round_of_reply hopen' (hreply.trans hask), h.books.target, h.files, h.check, h.check']
      rw [h.check] at hquiet
      have hskips := effect_unchecked hsteady s.session.target s.files reply (u.ask s).2.outside
        (u.ask t).2.outside fun e he => hquiet e (List.mem_append_right _ he)
      have hreplies := replies_effect hkeeps s.session.target true s.files reply (u.ask s).2.outside
      obtain ⟨hround, hafter⟩ := hskips.on hasked (hasked.replies.trans hreplies.symm) hasked.host
      refine ⟨hround, hafter, fun hagain => ?_⟩
      obtain ⟨prompt, hnext⟩ := Verdict.round_eq_again_iff.1 hagain
      refine ⟨prompt, ?_, ?_⟩
      · rw [Effect.due_on hnext, prompts_ask]
      · rw [← Verdict.next?_unchecked, ← hskips.2.2] at hnext
        rw [Effect.due_on hnext, prompts_ask]

/-- A run with quiet checks and the run without checks do the same. -/
theorem run_unchecked {tail : Text} {y : Except Failure SessionResult} {n : Nat}
    (hagent : u.agent = Outside.scripted) (hkeeps : KeepsReplies u) (hsteady : u.Steady)
    (h : Unchecked host s t) (hdue : Extended tail s.due t.due) (hrun : u.run n s = some (y, s'))
    (hquiet : ∀ e ∈ s'.log, e.isQuiet) :
    ∃ t', u.run n t = some (y.map SessionResult.unchecked, t') ∧ Unchecked host s' t' ∧
      Extended tail s'.prompts t'.prompts := by
  refine run_related (P := fun p => ∀ e ∈ p.log, e.isQuiet)
    (R := fun p q => Unchecked host p q ∧ Extended tail p.due q.due)
    (Q := fun p q => Unchecked host p q ∧ Extended tail p.prompts q.prompts)
    (fun hrun hquiet e he => hquiet e ((log_round_of_run hrun).subset he))
    (fun {p q} hpq hquiet => ?_) ⟨h, hdue⟩ hrun hquiet
  obtain ⟨hbooks, hextended⟩ := hpq
  obtain ⟨hround, hbooks', hagain⟩ := round_unchecked hagent hkeeps hsteady hbooks hquiet
  have hspent := hbooks.isSpent
  refine ⟨hround, ⟨hbooks', ?_⟩, fun hgoes => ⟨hbooks', ?_⟩⟩
  · cases hopen : isSpent p.session with
    | true =>
      -- the limit ends both runs before the prompt that is due is made
      rw [round_of_spent hopen, round_of_spent (hspent.trans hopen), ← RunState.dropLast_due,
        ← RunState.dropLast_due]
      exact hextended.dropLast
    | false =>
      rw [prompts_round hopen, prompts_round (hspent.trans hopen)]
      exact hextended
  · obtain ⟨prompt, hp, hq⟩ := hagain hgoes
    rw [hp, hq]
    exact hextended.append (by simp [RunState.due]) [prompt]

variable {f : Files} {target : Path} {o : Outside ω}

theorem start_unchecked (hkeeps : KeepsReplies u) (maxRounds : Option Nat) (request : Text)
    (hquiet : ∀ x ∈ u.startSights f target true o, x.isQuiet) :
    (∃ e, u.start maxRounds f target request true o = (.error e, o) ∧
      u.start maxRounds f target request false o = (.error e, o)) ∨
    ∃ session session' o', u.start maxRounds f target request true o = (.ok session, o') ∧
      u.start maxRounds f target request false o = (.ok session', o) ∧
      Unchecked o.host ⟨session, f, o', []⟩ ⟨session', f, o, []⟩ ∧
      session.pending = session'.pending ++ Text.ofString "\n\n<CHECK>\nNo errors.\n</CHECK>" := by
  unfold start
  unfold startSights at hquiet
  cases hsources : u.sources f target with
  | error e => exact .inl ⟨e, rfl, rfl⟩
  | ok found =>
    rw [hsources] at hquiet
    have hchecked := hquiet _ List.mem_cons_self
    have hreplies := hkeeps f target o
    have hon : u.firstCheck f target true o =
        ((u.check f target o).1.map fun o => some o.text, (u.check f target o).2) := rfl
    have hoff : u.firstCheck f target false o = (.ok none, o) := rfl
    rw [hon, hoff]
    generalize u.check f target o = said at hchecked hreplies ⊢
    obtain ⟨outcome, o'⟩ := said
    cases outcome with
    | error e => cases hchecked
    | ok outcome =>
      have htext : outcome.text = [] := by
        cases outcome with
        | clean n => rfl
        | notApplicable => rfl
        | diagnostics text n => cases hchecked
      refine .inr ⟨_, _, o', rfl, rfl, ?_, ?_⟩
      · exact ⟨⟨rfl, rfl, rfl, rfl, rfl⟩, rfl, hreplies.symm, rfl, rfl, rfl⟩
      · dsimp only
        rw [htext]
        exact Prompt.first_some _ _ _ _ _

theorem prompts_startSights (check : Bool) : Sight.prompts (u.startSights f target check o) = [] := by
  unfold startSights checkSights
  cases u.sources f target <;> cases check <;> rfl

theorem prompts_session (check : Bool) (s : RunState (Outside ω)) :
    Sight.prompts (u.startSights f target check o ++ s.sights u.system) = s.prompts := by
  rw [Sight.prompts_append, prompts_startSights, RunState.prompts_sights, List.nil_append]

end Runs

/-- With replies written in advance, a session with checks comes to its end. If all of its checks find
nothing or do not apply, the session without checks takes the same replies, leaves the same files, and
ends with the same error or with the same result, but for what the check said; it makes the same
prompts, but that the first one does not say that there are no errors. -/
theorem quiet_checks_change_no_edit (h : Host ω) (hh : h.Steady) (c : Config) (guide : Option Path)
    (f₀ : Files) (u : Setup (Outside ω)) (hu : ofConfig h Outside.scripted c guide f₀ = .ok u) (f : Files)
    (target : Path) (request : Text) (o : Outside ω) (n : Nat) (hn : o.replies.length < n) :
    ∃ (y : Except Failure SessionResult) (g : Files) (o' : Outside ω) (trace : List Sight),
      u.traced.runFrom n c.maxRounds f target request true (o, []) = some (y, g, o', trace) ∧
      ((∀ x ∈ trace, x.isQuiet) → ∃ trace' : List Sight,
        u.traced.runFrom n c.maxRounds f target request false (o, []) =
          some (y.map SessionResult.unchecked, g, ⟨o'.replies, o.host⟩, trace') ∧
        Sight.prompts trace = (Sight.prompts trace').modifyHead
          (· ++ Text.ofString "\n\n<CHECK>\nNo errors.\n</CHECK>")) := by
  obtain ⟨hagent, hkeeps⟩ := keepsReplies_of_ofConfig hu
  have hsteady := steady_of_ofConfig hh hu
  cases hstart : u.start c.maxRounds f target request true o with
  | mk session o₁ =>
    cases session with
    | error e =>
      refine ⟨.error e, f, o₁, _, by rw [runFrom_traced, hstart], fun hquiet => ?_⟩
      rcases start_unchecked hkeeps c.maxRounds request hquiet with ⟨e', hon, hoff⟩ | ⟨_, _, _, hon, -⟩
      · cases hstart.symm.trans hon
        refine ⟨_, by rw [runFrom_traced, hoff]; rfl, ?_⟩
        rw [prompts_startSights, prompts_startSights]
        rfl
      · cases hstart.symm.trans hon
    | ok session =>
      have hleft : o₁.replies = o.replies := by
        rw [(start_eq_ok hstart).2.2, replies_firstCheck hkeeps]
      obtain ⟨⟨y, s⟩, hrun⟩ : ∃ z, u.run n ⟨session, f, o₁, []⟩ = some z :=
        Option.isSome_iff_exists.1 (isSome_run_of_replies hagent hkeeps (by rw [hleft]; exact hn))
      refine ⟨y, s.files, s.outside, u.startSights f target true o ++ s.sights u.system, ?_,
        fun hquiet => ?_⟩
      · rw [runFrom_traced, hstart]
        exact congrArg (Option.map _) hrun
      obtain ⟨hquiet₀, hquiet'⟩ := List.forall_mem_append.1 hquiet
      rcases start_unchecked hkeeps c.maxRounds request hquiet₀ with
        ⟨e', hon, -⟩ | ⟨session, session', _, hon, hoff, hbooks, hpending⟩
      · cases hstart.symm.trans hon
      · cases hstart.symm.trans hon
        obtain ⟨t, hrun', hbooks', hprompts⟩ := run_unchecked hagent hkeeps hsteady hbooks
          (congrArg (fun t => [t]) hpending) hrun (RunState.isQuiet_of_sights hquiet')
        have houtside : t.outside = ⟨s.outside.replies, o.host⟩ := by
          rw [← hbooks'.replies, ← hbooks'.host]
        refine ⟨u.startSights f target false o ++ t.sights u.system, ?_, ?_⟩
        · rw [runFrom_traced, hoff, ← hbooks'.files, ← houtside]
          exact congrArg (Option.map _) hrun'
        · rw [prompts_session, prompts_session]
          exact hprompts

/-- A checker that stays silent, before and after the edit. -/
theorem quiet_checks_change_no_edit_silent :
    (Host.playback ⟨9, 9, 9⟩).Steady ∧
    ofConfig (.playback ⟨9, 9, 9⟩) Outside.scripted {} none plain =
      .ok (standard (.playback ⟨9, 9, 9⟩)) ∧
    ∃ (y : Except Failure SessionResult) (g : Files) (o' : Outside Playback)
        (trace trace' : List Sight),
      (standard (.playback ⟨9, 9, 9⟩)).traced.runFrom 2 none plain (.ofText "a.hs") "go" true
        (⟨["<RESULT>b</RESULT>"], ⟨[.output {}, .output {}], []⟩⟩, []) = some (y, g, o', trace) ∧
      (∀ x ∈ trace, x.isQuiet) ∧
      (standard (.playback ⟨9, 9, 9⟩)).traced.runFrom 2 none plain (.ofText "a.hs") "go" false
        (⟨["<RESULT>b</RESULT>"], ⟨[.output {}, .output {}], []⟩⟩, []) =
        some (y.map SessionResult.unchecked, g, ⟨o'.replies, ⟨[.output {}, .output {}], []⟩⟩, trace') := by
  have hsteady : (Host.playback ⟨9, 9, 9⟩).Steady := fun _ _ _ _ _ => rfl
  obtain ⟨y, g, o', trace, hrun, hsame⟩ := quiet_checks_change_no_edit (.playback ⟨9, 9, 9⟩) hsteady {} none
    plain _ (ofConfig_standard _ plain) plain (.ofText "a.hs") "go"
    ⟨["<RESULT>b</RESULT>"], ⟨[.output {}, .output {}], []⟩⟩ 2 (by decide)
  have hquiet : ((standard (.playback ⟨9, 9, 9⟩)).traced.runFrom 2 none plain (.ofText "a.hs") "go" true
      (⟨["<RESULT>b</RESULT>"], ⟨[.output {}, .output {}], []⟩⟩, [])).all fun z =>
        z.2.2.2.all Sight.isQuiet := by
    decide +kernel
  rw [show (standard (.playback ⟨9, 9, 9⟩)).traced.runFrom 2 none _ _ _ _ _ = _ from hrun, Option.all_some,
    List.all_eq_true] at hquiet
  obtain ⟨trace', hrun', -⟩ := hsame hquiet
  exact ⟨hsteady, ofConfig_standard _ plain, y, g, o', trace, trace', hrun, hquiet, hrun'⟩

end Setup

end Redraft
