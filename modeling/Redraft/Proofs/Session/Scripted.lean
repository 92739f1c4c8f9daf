import Mathlib.Data.List.Induction
import Redraft.Proofs.Session.Effect
import Redraft.Proofs.Session.Ending

/-!
Runs on replies written in advance, with checks that draw on the host alone. A round takes the first
of the replies that are left, whatever its prompt is, and has no part in the others.
-/
namespace Redraft

variable {ω : Type}

theorem CheckerTable.check_hosted (h : Host ω) (t : CheckerTable) (f : Files) (p : Path)
    (o : Outside ω) : t.check (Outside.hosted h) f p o =
      ((t.check h f p o.host).1, { o with host := (t.check h f p o.host).2 }) := by
  unfold check
  cases t.checkerFor? p with
  | none => rfl
  | some c =>
    unfold Checker.run
    dsimp only
    cases hran : h.run f ⟨c.commandLine p, t.timeout, .none, .none⟩ o.host with
    | mk answer host =>
      have hhosted : (Outside.hosted h).run f ⟨c.commandLine p, t.timeout, .none, .none⟩ o =
          (answer, { o with host := host }) := by
        simp only [Outside.hosted, hran]
      rw [hhosted]
      cases answer with
      | ok output => rfl
      | error e => cases e <;> rfl

def RunState.withReplies (replies : List Text) (s : RunState (Outside ω)) : RunState (Outside ω) :=
  { s with outside := { s.outside with replies := replies } }

namespace Setup

/-- A setup with replies written in advance, and a way to check files and to refuse writes that draws
on the host. -/
def scripted (system : Text) (language : Language) (room : Room)
    (check : Files → Path → ω → Except Failure Outcome × ω)
    (refuses : Files → Path → Text → ω → Refusals) : Setup (Outside ω) where
  agent := Outside.scripted
  system := system
  language := language
  room := room
  check f p o := ((check f p o.host).1, { o with host := (check f p o.host).2 })
  refuses f p content o := refuses f p content o.host

/-- What runs under a configuration have in common is such a setup if the agent is a script. -/
theorem ofConfig_scripted (h : Host ω) (c : Config) (guide : Option Path) (f : Files) :
    ofConfig h Outside.scripted c guide f = (Prompt.system f (guide.or c.guide)).map fun system =>
      scripted system c.language h.room ((CheckerTable.ofConfig c).check h) h.refuses := by
  have hcheck : (CheckerTable.ofConfig c).check (Outside.hosted h) =
      (scripted [] c.language h.room ((CheckerTable.ofConfig c).check h) h.refuses).check := by
    funext g p o
    exact CheckerTable.check_hosted h _ g p o
  unfold ofConfig
  rw [hcheck]
  cases Prompt.system f (guide.or c.guide) <;> rfl

section Replies

variable {u : Setup (Outside ω)} {s : RunState (Outside ω)} {reply : Text} {rest : List Text}

theorem ask_scripted (hagent : u.agent = Outside.scripted) (h : s.outside.replies = reply :: rest) :
    (u.ask s).1 = .ok reply := by
  unfold ask
  rw [hagent]
  change (Agent.nextReply s.outside.replies).1 = _
  rw [h]
  rfl

theorem outside_ask_scripted (hagent : u.agent = Outside.scripted) :
    (u.ask s).2.outside = { s.outside with replies := s.outside.replies.tail } := by
  unfold ask
  rw [hagent]
  change Outside.mk (Agent.nextReply s.outside.replies).2 s.outside.host = _
  cases s.outside.replies <;> rfl

theorem replies_effect (hkeeps : KeepsReplies u) (target : Path) (checks : Bool) (f : Files)
    (reply : Text) (o : Outside ω) :
    (u.effect target checks f reply o).outside.replies = o.replies := by
  unfold effect
  cases Turn.ofReply u.room.json reply with
  | error e => rfl
  | ok turn =>
    cases turn with
    | info requests => rfl
    | edit content =>
      dsimp only
      unfold writeEffect
      dsimp only
      cases (u.put target f (Text.trim content) o).1 with
      | error e => rfl
      | ok _ =>
        cases checks with
        | false => rfl
        | true => exact hkeeps _ _ _

theorem replies_round (hagent : u.agent = Outside.scripted) (hkeeps : KeepsReplies u)
    (hopen : isSpent s.session = false) (h : s.outside.replies = reply :: rest) :
    (u.round s).2.outside.replies = rest := by
  rw [round_of_reply hopen (ask_scripted hagent h)]
  change (u.effect _ _ _ _ _).outside.replies = rest
  rw [replies_effect hkeeps, outside_ask_scripted hagent, h, List.tail_cons]

end Replies

variable {system : Text} {language : Language} {room : Room}
  {check : Files → Path → ω → Except Failure Outcome × ω}
  {refuses : Files → Path → Text → ω → Refusals} {s p s₀ : RunState (Outside ω)}
  {reply : Text} {rest : List Text}

theorem keepsReplies_scripted : KeepsReplies (scripted system language room check refuses) := fun _ _ _ => rfl

/-- What handling a reply does is the same whatever other replies are left, and it leaves them. -/
theorem effect_scripted (target : Path) (checks : Bool) (f : Files) (reply : Text) (o : Outside ω)
    (replies : List Text) :
    (scripted system language room check refuses).effect target checks f reply { o with replies := replies } =
      { (scripted system language room check refuses).effect target checks f reply o with
        outside :=
          { ((scripted system language room check refuses).effect target checks f reply o).outside with
            replies := replies } } := by
  have hput (content : Text) : (scripted system language room check refuses).put target f content
      { o with replies := replies } =
        (scripted system language room check refuses).put target f content o := rfl
  unfold effect
  cases Turn.ofReply (scripted system language room check refuses).room.json reply with
  | error e => rfl
  | ok turn =>
    cases turn with
    | info requests => rfl
    | edit content =>
      dsimp only
      unfold writeEffect
      rw [hput]
      dsimp only
      cases ((scripted system language room check refuses).put target f (Text.trim content) o).1 with
      | error e => rfl
      | ok _ => cases checks <;> rfl

theorem ask_withReplies (h : s.outside.replies = reply :: rest) (more : List Text) :
    (scripted system language room check refuses).ask (s.withReplies (reply :: more)) =
      (.ok reply, ((scripted system language room check refuses).ask s).2.withReplies more) := by
  obtain ⟨session, files, ⟨replies, host⟩, log⟩ := s
  cases h
  rfl

theorem round_withReplies (hopen : isSpent s.session = false)
    (h : s.outside.replies = reply :: rest) (more : List Text) :
    (scripted system language room check refuses).round (s.withReplies (reply :: more)) =
      (((scripted system language room check refuses).round s).1,
        ((scripted system language room check refuses).round s).2.withReplies more) := by
  have hask : (scripted system language room check refuses).ask (s.withReplies (reply :: more)) = _ :=
    ask_withReplies h more
  have hopen' : isSpent (s.withReplies (reply :: more)).session = false := hopen
  rw [round_of_reply hopen (ask_scripted rfl h), round_of_reply hopen' (congrArg Prod.fst hask), hask]
  change Effect.on ((scripted system language room check refuses).effect s.session.target s.session.check
    s.files reply { ((scripted system language room check refuses).ask s).2.outside with replies := more }) _ = _
  rw [effect_scripted]
  rfl

theorem keepsReplies_of_ofConfig {h : Host ω} {c : Config} {guide : Option Path} {f : Files}
    {u : Setup (Outside ω)} (hu : ofConfig h Outside.scripted c guide f = .ok u) :
    u.agent = Outside.scripted ∧ KeepsReplies u := by
  rw [ofConfig_scripted] at hu
  cases hsystem : Prompt.system f (guide.or c.guide) with
  | error e =>
    rw [hsystem] at hu
    cases hu
  | ok system =>
    rw [hsystem] at hu
    cases hu
    exact ⟨rfl, keepsReplies_scripted⟩

/-- A run that takes more than some of its replies is at some point where it has taken just these. It
comes there the same way whatever the replies after them are. -/
theorem exists_after {y : Except Failure SessionResult} {n : Nat} {used left : List Text}
    (hmax : s₀.session.maxRounds = none) (hreplies : s₀.outside.replies = used ++ left)
    (hrun : (scripted system language room check refuses).run n s₀ = some (y, s))
    (hmore : s.outside.replies.length < left.length) :
    ∃ p, (scripted system language room check refuses).after used.length s₀ = some p ∧
      p.outside.replies = left ∧ p.session.maxRounds = none ∧
      p.prompts.length = s₀.prompts.length + used.length ∧
      ∀ more, (scripted system language room check refuses).after used.length (s₀.withReplies (used ++ more)) =
        some (p.withReplies more) := by
  induction used using List.reverseRecOn generalizing left with
  | nil => exact ⟨s₀, rfl, hreplies, hmax, rfl, fun more => rfl⟩
  | append_singleton used reply ih =>
    rw [List.append_assoc, List.singleton_append] at hreplies
    obtain ⟨p, hp, hleft, hmax', hlength, hsame⟩ := ih hreplies (Nat.lt_succ_of_lt hmore)
    have hopen := isSpent_of_unlimited hmax'
    obtain ⟨m, -, hrest⟩ := run_eq_some_of_after hp hrun
    have hreplies' : ((scripted system language room check refuses).round p).2.outside.replies = left :=
      replies_round rfl keepsReplies_scripted hopen hleft
    have hprompts : ((scripted system language room check refuses).round p).2.prompts = p.due :=
      prompts_round hopen
    have hmaxRounds := maxRounds_round (scripted system language room check refuses) p
    cases m with
    | zero => cases hrest
    | succ m =>
      rw [run] at hrest
      cases hround : (scripted system language room check refuses).round p with
      | mk r p' =>
        rw [hround] at hrest hreplies' hprompts hmaxRounds
        dsimp only at hreplies' hprompts hmaxRounds
        cases r with
        | again =>
          rw [List.length_append, List.length_singleton]
          refine ⟨p', after_succ_eq_some.2 ⟨p, hp, hround⟩, hreplies', hmaxRounds.trans hmax', ?_,
            fun more => ?_⟩
          · rw [hprompts, RunState.due, List.length_append, hlength, List.length_singleton,
              Nat.add_assoc]
          · rw [List.append_assoc, List.singleton_append]
            refine after_succ_eq_some.2 ⟨_, hsame (reply :: more), ?_⟩
            rw [round_withReplies hopen hleft, hround]
        -- a run that ends here leaves all of the replies after these
        | finished result =>
          obtain ⟨rfl, rfl⟩ := Prod.mk.inj (Option.some.inj hrest)
          exact absurd hmore (by rw [hreplies']; exact Nat.lt_irrefl _)
        | failed e =>
          obtain ⟨rfl, rfl⟩ := Prod.mk.inj (Option.some.inj hrest)
          exact absurd hmore (by rw [hreplies']; exact Nat.lt_irrefl _)

end Setup

end Redraft
