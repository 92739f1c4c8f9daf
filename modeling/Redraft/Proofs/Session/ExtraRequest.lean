import Redraft.Proofs.Session.Related
import Redraft.Proofs.Session.Scripted

/-!
Rounds that serve requests do not touch the edit. With one more of them at any point of a run, the
run writes and checks the same things and ends the same way; only its counters and its prompts tell
the difference, by one.
-/
namespace Redraft

variable {σ ω : Type}

/-- Of two points in runs the second is the first after one more round that served requests. What
was asked so far and the pending prompts are left open. -/
structure RunState.Later (s t : RunState σ) : Prop where
  books : s.session.Ahead 1 t.session
  files : t.files = s.files
  outside : t.outside = s.outside
  check : t.session.check = s.session.check
  unlimited : s.session.maxRounds = none
  acts : t.acts = s.acts

open RunState (Later)

/-- The second list is the first with one more text after its front. -/
def Inserted (front : List Text) (answer : Text) (xs ys : List Text) : Prop :=
  ∃ later, xs = front ++ later ∧ ys = front ++ answer :: later

theorem Inserted.append {front xs ys : List Text} {answer : Text} (h : Inserted front answer xs ys)
    (zs : List Text) : Inserted front answer (xs ++ zs) (ys ++ zs) := by
  obtain ⟨later, rfl, rfl⟩ := h
  refine ⟨later ++ zs, List.append_assoc .., ?_⟩
  rw [List.append_assoc, List.cons_append]

theorem RunState.Later.isSpent {s t : RunState σ} (h : Later s t) :
    Setup.isSpent s.session = false ∧ Setup.isSpent t.session = false :=
  ⟨Setup.isSpent_of_unlimited h.unlimited,
    Setup.isSpent_of_unlimited (h.books.maxRounds.trans h.unlimited)⟩

theorem Effect.on_later {s t : RunState σ} (h : Later s t) (e : Effect σ) :
    (e.on t).1 = (e.on s).1.map (SessionResult.later 1) ∧ Later (e.on s).2 (e.on t).2 := by
  refine ⟨h.books.round e.verdict, h.books.book e.verdict, rfl, rfl, ?_, ?_, ?_⟩
  · simp only [on, Verdict.check_book, h.check]
  · simp only [on, Verdict.maxRounds_book, h.unlimited]
  · rw [acts_on, acts_on, h.acts]

/-- Agents whose replies do not depend on the prompts. -/
def Agent.IgnoresPrompts (a : Agent σ) : Prop :=
  ∀ f system prompt prompt' o, a.ask f system prompt o = a.ask f system prompt' o

theorem ignoresPrompts_scripted : (Outside.scripted (ω := ω)).IgnoresPrompts :=
  fun _ _ _ _ _ => rfl

namespace Setup

section Later

variable {u : Setup σ} {s t s' : RunState σ} {answer : Text}

theorem ask_later (hagent : u.agent.IgnoresPrompts) (h : Later s t) :
    (u.ask t).1 = (u.ask s).1 ∧ Later (u.ask s).2 (u.ask t).2 := by
  have hask : u.agent.ask t.files u.system t.session.pending t.outside =
      u.agent.ask s.files u.system s.session.pending s.outside := by
    rw [h.files, h.outside]
    exact hagent ..
  have hreply := congrArg Prod.fst hask
  have houtside := congrArg Prod.snd hask
  have hacts : (u.ask t).2.acts = (u.ask s).2.acts := by rw [acts_ask, acts_ask, h.acts]
  exact ⟨hreply, h.books.asked, h.files, houtside, h.check, h.unlimited, hacts⟩

/-- Of two runs that are out of step by a round that served requests, the next rounds do the same. -/
theorem round_later (hagent : u.agent.IgnoresPrompts) (h : Later s t) :
    (u.round t).1 = (u.round s).1.map (SessionResult.later 1) ∧ Later (u.round s).2 (u.round t).2 ∧
      ((u.round s).1 = .again → ∃ prompt,
        (u.round s).2.due = s.due ++ [prompt] ∧ (u.round t).2.due = t.due ++ [prompt]) := by
  obtain ⟨hopen, hopen'⟩ := h.isSpent
  obtain ⟨hreply, hlater⟩ := ask_later hagent h
  cases hask : (u.ask s).1 with
  | error e =>
    rw [round_of_silence hopen hask, round_of_silence hopen' (hreply.trans hask)]
    exact ⟨rfl, hlater, fun hagain => by cases hagain⟩
  | ok reply =>
    rw [round_of_reply hopen hask, round_of_reply hopen' (hreply.trans hask), h.books.target,
      h.check, h.files, hlater.outside]
    obtain ⟨hround, hlater'⟩ := Effect.on_later hlater _
    refine ⟨hround, hlater', fun hagain => ?_⟩
    obtain ⟨prompt, hnext⟩ := Verdict.round_eq_again_iff.1 hagain
    refine ⟨prompt, ?_, ?_⟩
    · rw [Effect.due_on hnext, prompts_ask]
    · rw [Effect.due_on hnext, prompts_ask]

/-- The rest of a run is the same after one more round that served requests. -/
theorem run_later {y : Except Failure SessionResult} {n : Nat} {front : List Text}
    (hagent : u.agent.IgnoresPrompts) (h : Later s t) (hdue : Inserted front answer s.due t.due)
    (hrun : u.run n s = some (y, s')) :
    ∃ t', u.run n t = some (y.map (SessionResult.later 1), t') ∧ Later s' t' ∧
      Inserted front answer s'.prompts t'.prompts := by
  refine run_related (P := fun _ => True)
    (R := fun p q => Later p q ∧ Inserted front answer p.due q.due)
    (Q := fun p q => Later p q ∧ Inserted front answer p.prompts q.prompts)
    (fun _ _ => trivial) (fun {p q} hpq _ => ?_) ⟨h, hdue⟩ hrun trivial
  obtain ⟨hlater, hinserted⟩ := hpq
  obtain ⟨hround, hlater', hagain⟩ := round_later hagent hlater
  refine ⟨hround, ⟨hlater', ?_⟩, fun hgoes => ⟨hlater', ?_⟩⟩
  · rw [prompts_round hlater.isSpent.1, prompts_round hlater.isSpent.2]
    exact hinserted
  · obtain ⟨prompt, hp, hq⟩ := hagain hgoes
    rw [hp, hq]
    exact hinserted.append [prompt]

end Later

variable {system : Text} {language : Language} {room : Room}
  {check : Files → Path → ω → Except Failure Outcome × ω}
  {refuses : Files → Path → Text → ω → Refusals} {p : RunState (Outside ω)}
  {extra answer : Text} {requests : List Request} {left : List Text}

theorem round_of_request (hmax : p.session.maxRounds = none) (hleft : p.outside.replies = left)
    (hturn : Turn.ofReply room.json extra = .ok (.info requests))
    (hserve : Source.serve room.links p.files language p.session.target.parent requests = .ok answer) :
    ∃ t, (scripted system language room check refuses).round (p.withReplies (extra :: left)) = (.again, t) ∧
      Later p t ∧ t.due = p.due ++ [answer] := by
  have hopen : isSpent (p.withReplies (extra :: left)).session = false := isSpent_of_unlimited hmax
  have hask : ((scripted system language room check refuses).ask (p.withReplies (extra :: left))).1 =
      .ok extra := ask_scripted rfl rfl
  have hacts := acts_ask (scripted system language room check refuses) (p.withReplies (extra :: left))
  have hprompts := prompts_ask (scripted system language room check refuses) (p.withReplies (extra :: left))
  refine ⟨_, Goes.eq_round (.served hopen hask hturn hserve),
    ⟨⟨rfl, rfl, rfl, rfl, rfl⟩, rfl, ?_, rfl, hmax, hacts⟩, congrArg (· ++ [answer]) hprompts⟩
  subst hleft
  rfl

/-- Take a run without a limit on replies written in advance, and a point at which it has taken some
of them and is to take more. With one more reply at this point, which asks for what can be served from
the files as they are then, the run writes and checks the same contents with the same answers, leaves
the same files, and ends with the same error or the same result; the round and the requests that were
served are counted, and of the prompts only the answer is new. -/
theorem extra_request_changes_no_edit (system : Text) (language : Language) (room : Room)
    (check : Files → Path → ω → Except Failure Outcome × ω)
    (refuses : Files → Path → Text → ω → Refusals) (s₀ : RunState (Outside ω))
    (hlog : s₀.log = []) (hmax : s₀.session.maxRounds = none) (used left : List Text)
    (hreplies : s₀.outside.replies = used ++ left) (n : Nat) (y : Except Failure SessionResult)
    (s : RunState (Outside ω)) (trace : List Sight)
    (hrun : (scripted system language room check refuses).traced.run n (s₀.joined []) =
      some (y, s.joined trace))
    (hmore : s.outside.replies.length < left.length) :
    ∃ (p : RunState (Outside ω)) (before : List Sight),
      (scripted system language room check refuses).traced.after used.length (s₀.joined []) =
        some (p.joined before) ∧
      p.outside.replies = left ∧ (Sight.prompts before).length = used.length ∧
      ∀ extra requests answer, Turn.ofReply room.json extra = .ok (.info requests) →
        Source.serve room.links p.files language p.session.target.parent requests = .ok answer →
        ∃ (s' : RunState (Outside ω)) (trace' : List Sight) (later : List Text),
          (scripted system language room check refuses).traced.run (n + 1)
              ((s₀.withReplies (used ++ extra :: left)).joined []) =
            some (y.map (SessionResult.later 1), s'.joined trace') ∧
          s'.acts = s.acts ∧
          trace'.filterMap Sight.check? = trace.filterMap Sight.check? ∧
          s'.files = s.files ∧ s'.outside = s.outside ∧
          s'.session.rounds = s.session.rounds + 1 ∧
          s'.session.infoRounds = s.session.infoRounds + 1 ∧
          s'.session.repairRounds = s.session.repairRounds ∧
          Sight.prompts trace = Sight.prompts before ++ p.session.pending :: later ∧
          Sight.prompts trace' = Sight.prompts before ++ p.session.pending :: answer :: later := by
  obtain ⟨hplain, rfl⟩ := run_of_traced hlog hrun
  obtain ⟨p, hp, hleft, hmax', hlength, hsame⟩ := exists_after hmax hreplies hplain hmore
  -- from `p` on the run is the rest of the old one, and the new one comes to `p` as well
  obtain ⟨m, rfl, hrest⟩ := run_eq_some_of_after hp hplain
  refine ⟨p, p.sights system, after_traced hlog hp [], hleft, ?_, ?_⟩
  · rw [RunState.prompts_sights, hlength, RunState.prompts, hlog, List.filterMap_nil, List.length_nil,
      Nat.zero_add]
  · intro extra requests answer hturn hserve
    have hlog' : (s₀.withReplies (used ++ extra :: left)).log = [] := hlog
    obtain ⟨t, hround, hlater, hdue⟩ :
        ∃ t, (scripted system language room check refuses).round (p.withReplies (extra :: left)) =
          (.again, t) ∧ _ :=
      round_of_request hmax' hleft hturn hserve
    obtain ⟨s', hrest', hlater', later, hprompts, hprompts'⟩ :=
      run_later ignoresPrompts_scripted hlater ⟨[], (List.append_nil p.due).symm, hdue⟩ hrest
    rw [RunState.due, List.append_assoc, List.singleton_append] at hprompts hprompts'
    have hrun' : (scripted system language room check refuses).run (used.length + m + 1)
        (s₀.withReplies (used ++ extra :: left)) = some (y.map (SessionResult.later 1), s') := by
      rw [Nat.add_assoc, run_of_after (hsame (extra :: left)), run, hround]
      exact hrest'
    refine ⟨s', s'.sights system, later, ?_, hlater'.acts, ?_, hlater'.files, hlater'.outside,
      hlater'.books.rounds, hlater'.books.infoRounds, hlater'.books.repairRounds, ?_, ?_⟩
    · rw [run_traced _ _ hlog', hrun']
      rfl
    · rw [List.nil_append, RunState.checks_sights, RunState.checks_sights, hlater'.acts,
        hlater'.books.target]
      rfl
    · rw [List.nil_append, RunState.prompts_sights, RunState.prompts_sights]
      exact hprompts
    · rw [RunState.prompts_sights, RunState.prompts_sights]
      exact hprompts'

def relenting : Setup (Outside Nat) :=
  scripted "system" {} ⟨9, 9, 9⟩
    (fun _ _ seen => (.ok (if seen = 0 then .diagnostics "no" (some 1) else .clean 0), seen + 1))
    fun _ _ _ _ => {}

def edited : RunState (Outside Nat) where
  session := { target := .ofText "a", pending := "go", check := true }
  files := ⟨⟨[(["a"], .file [120] 0o640)]⟩, []⟩
  outside := ⟨["<RESULT>b</RESULT>", "<RESULT>c</RESULT>"], 0⟩

def shown : Text := "<SHOW>[\x7b\"path\": \"a\", \"mode\": \"full\"\x7d]</SHOW>"

def requested? (reply : Text) : Option (List Request) :=
  match Turn.ofReply 9 reply with
  | .ok (.info requests) => some requests
  | _ => none

theorem ofReply_of_requested? {reply : Text} {requests : List Request}
    (h : requested? reply = some requests) : Turn.ofReply 9 reply = .ok (.info requests) := by
  unfold requested? at h
  split at h
  · next hturn =>
    cases h
    exact hturn
  · cases h

/-- The target is asked for between its refused edit and the repair. -/
theorem extra_request_changes_no_edit_refused :
    ∃ (y : Except Failure SessionResult) (s s' : RunState (Outside Nat)) (trace trace' : List Sight),
      relenting.traced.run 2 (edited.joined []) = some (y, s.joined trace) ∧
      s.outside.replies.length < 1 ∧
      relenting.traced.run 3 ((edited.withReplies
          ["<RESULT>b</RESULT>", shown, "<RESULT>c</RESULT>"]).joined []) =
        some (y.map (SessionResult.later 1), s'.joined trace') ∧
      s'.acts = s.acts ∧ s'.files = s.files := by
  obtain ⟨⟨y, s⟩, hrun⟩ : ∃ z, relenting.run 2 edited = some z :=
    Option.isSome_iff_exists.1 (by decide +kernel)
  have htraced : relenting.traced.run 2 (edited.joined []) = _ := run_traced relenting 2 rfl []
  rw [hrun, Option.map_some] at htraced
  have hmore : s.outside.replies.length < 1 := by
    have htaken : (relenting.run 2 edited).all fun z => z.2.outside.replies.length < 1 := by
      decide +kernel
    rw [hrun] at htaken
    simpa using htaken
  obtain ⟨p, before, hp, -, -, hextra⟩ := extra_request_changes_no_edit "system" {} _ _ _ edited rfl rfl
    ["<RESULT>b</RESULT>"] ["<RESULT>c</RESULT>"] rfl 2 y s _ htraced hmore
  have hserved : (relenting.traced.after 1 (edited.joined [])).all (fun q =>
      (requested? shown).any fun requests =>
        (Source.serve 9 q.files {} q.session.target.parent requests).isOk) = true := by
    decide +kernel
  rw [show relenting.traced.after 1 _ = _ from hp, Option.all_some] at hserved
  obtain ⟨requests, hasks, hok⟩ := (Option.any_eq_true _ _).1 hserved
  cases hserve : Source.serve 9 p.files {} p.session.target.parent requests with
  | error e =>
    dsimp only [RunState.joined] at hok
    rw [hserve] at hok
    cases hok
  | ok answer =>
    obtain ⟨s', trace', -, hrun', hacts, -, hfiles, -⟩ :=
      hextra shown _ answer (ofReply_of_requested? hasks) hserve
    exact ⟨y, s, s', _, trace', htraced, hmore, hrun', hacts, hfiles⟩

end Setup

end Redraft
