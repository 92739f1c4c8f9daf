import Redraft.Host.Playback
import Redraft.Proofs.Agent.Claude
import Redraft.Proofs.Session.Rounds

/-!
A failed call of the agent never edits. The run ends at that call with an error; nothing is asked,
checked or written after it, and the files are as they were before it.
-/
namespace Redraft

namespace Setup

variable {σ : Type} {u : Setup σ} {s s' s₀ : RunState σ}

theorem run_of_ask_eq_error {w : Option Text} {e : Failure} (h : Reaches u s₀ w s)
    (hopen : isSpent s.session = false) (hask : (u.ask s).1 = .error e) :
    (∃ n, u.run n s₀ = some (.error e, (u.ask s).2)) ∧
      ∀ n y, u.run n s₀ = some y → y = (.error e, (u.ask s).2) := by
  have hround : u.round s = (.failed e, (u.ask s).2) := Goes.eq_round (.unanswered hopen hask)
  have hends : ∃ n, u.run n s₀ = some (.error e, (u.ask s).2) :=
    exists_run_eq_some.2 ⟨_, .failed h hround⟩
  refine ⟨hends, fun n y hy => ?_⟩
  obtain ⟨m, hm⟩ := hends
  exact run_unique hy hm

/-- A run ends with an error at the first call of the command that fails, be it that the call takes
too long, cannot be started, ends with a code or calls its result an error, and whatever it has
printed. The files are as they were before the call, no other command was run since, and in the log
the call comes last. There is a call when the limit leaves a round and the system prompt can be
written for the command to read. -/
theorem failed_call_ends_run (h : Host σ) (c : Claude) (u : Setup σ) (hagent : u.agent = c.agent h)
    (s₀ : RunState σ) (w : Option Text) (s : RunState σ) (hreaches : Reaches u s₀ w s)
    (hopen : isSpent s.session = false) (hsystem : Utf8.unencodable? 0 u.system = none)
    (hfailed : Claude.Failed h.room.json
      (h.run s.files (c.command u.system s.session.pending) s.outside).1) :
    ∃ e s', s'.files = s.files ∧
      s'.outside = (h.run s.files (c.command u.system s.session.pending) s.outside).2 ∧
      s'.log = s.log ++
        [.asked { s.session with rounds := s.session.rounds + 1 } s.files (.error e)] ∧
      (∃ n, u.run n s₀ = some (.error e, s')) ∧
      ∀ n y, u.run n s₀ = some y → y = (.error e, s') := by
  obtain ⟨e, hanswer⟩ := Claude.ask_of_failed h c s.files hsystem hfailed
  have hask : u.agent.ask s.files u.system s.session.pending s.outside =
      (.error e, (h.run s.files (c.command u.system s.session.pending) s.outside).2) := by
    rw [hagent]
    exact hanswer
  have hfst : (u.ask s).1 = .error e := congrArg Prod.fst hask
  have hlog : (u.ask s).2.log = s.log ++
      [.asked { s.session with rounds := s.session.rounds + 1 } s.files (u.ask s).1] := rfl
  rw [hfst] at hlog
  exact ⟨e, (u.ask s).2, rfl, congrArg Prod.snd hask, hlog, run_of_ask_eq_error hreaches hopen hfst⟩

def commanding : Setup Playback where
  agent := (⟨"sonnet", "claude", [], .whole 600⟩ : Claude).agent (.playback ⟨9, 9, 9⟩)
  system := "system"
  language := {}
  room := ⟨9, 9, 9⟩
  check _ _ p := (.ok .notApplicable, p)

def misleading : Output where
  stdout := "\x7b\"is_error\": 1, \"result\": \"<RESULT>b</RESULT>\"\x7d"

def misled : RunState Playback where
  session := ⟨.ofText "a", "prompt", true, none, 0, 0, 0⟩
  files := ⟨⟨[(["a"], .file [] 0o644)]⟩, []⟩
  outside := ⟨[.output misleading], []⟩

theorem failed_call_ends_run_misleading :
    Claude.saysError 9 misleading.stdout = true ∧
    ∃ e s', s'.files = misled.files ∧ ∃ n, commanding.run n misled = some (.error e, s') := by
  have herror : Claude.saysError 9 misleading.stdout = true := by decide +kernel
  obtain ⟨e, s', hfiles, -, -, hends, -⟩ :=
    failed_call_ends_run (.playback ⟨9, 9, 9⟩) ⟨"sonnet", "claude", [], .whole 600⟩ commanding rfl
      misled none misled .start rfl (by decide +kernel) (.error herror)
  exact ⟨herror, e, s', hfiles, hends⟩

end Setup

end Redraft
