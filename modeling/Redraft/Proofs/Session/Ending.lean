import Redraft.Proofs.Session.History
import Redraft.Session.Start

/-!
Runs that come to an end: those with a limit on the rounds, and those with replies written in advance,
of which each round takes one.
-/
namespace Redraft

variable {ω : Type} {h : Host ω}

namespace Setup

variable {u : Setup (Outside ω)} {s s' : RunState (Outside ω)}

def KeepsReplies (u : Setup (Outside ω)) : Prop := ∀ f p o, (u.check f p o).2.replies = o.replies

theorem replies_of_ask {reply : Text} (hagent : u.agent = Outside.scripted)
    (hask : (u.ask s).1 = .ok reply) :
    s.outside.replies = reply :: (u.ask s).2.outside.replies := by
  unfold ask at hask ⊢
  rw [hagent] at hask ⊢
  obtain ⟨session, files, ⟨replies, host⟩, log⟩ := s
  cases replies with
  | nil => cases hask
  | cons r rest =>
    cases hask
    rfl

/-- A round that does not end the run takes one reply. -/
theorem Goes.replies (hagent : u.agent = Outside.scripted) (hcheck : KeepsReplies u)
    (h : Goes u s .again s') : s.outside.replies.length = s'.outside.replies.length + 1 := by
  cases h with
  | served hspent hask hturn hserve =>
    rw [replies_of_ask hagent hask, List.length_cons]
  | edited hspent hask hturn hedit =>
    cases hedit with
    | refused hwrite hchecked houtcome hdiagnostics =>
      change _ = (checkTarget u (write u (Text.trim _) (u.ask s).2).2).2.outside.replies.length + 1
      rw [checkTarget_outside, hcheck, write_outside, replies_of_ask hagent hask, List.length_cons]

/-- With room for more rounds than there are replies, a run comes to its end. -/
theorem isSome_run_of_replies (hagent : u.agent = Outside.scripted) (hcheck : KeepsReplies u) {n : Nat}
    (hn : s.outside.replies.length < n) : (u.run n s).isSome := by
  refine isSome_run_of_decreasing (fun _ => True) (fun s => s.outside.replies.length)
    (fun s s' _ hgoes => ?_) trivial hn
  have hreplies := hgoes.replies hagent hcheck
  exact ⟨trivial, by omega⟩

variable {maxRounds : Option Nat} {f : Files} {target : Path} {request : Text} {check : Bool}
  {o o' : Outside ω} {session : Session}

theorem start_eq_ok (h : u.start maxRounds f target request check o = (.ok session, o')) :
    session.maxRounds = maxRounds ∧ session.rounds = 0 ∧ o' = (u.firstCheck f target check o).2 := by
  unfold start at h
  split at h
  · cases h
  · split at h
    · cases h
    · rename_i hcheck
      cases h
      exact ⟨rfl, rfl, (congrArg Prod.snd hcheck).symm⟩

theorem replies_firstCheck (hcheck : KeepsReplies u) :
    (u.firstCheck f target check o).2.replies = o.replies := by
  cases check with
  | false => rfl
  | true => exact hcheck f target o

theorem isSome_runFrom {n : Nat} (h : (∃ m, maxRounds = some m ∧ m < n) ∨
    (u.agent = Outside.scripted ∧ KeepsReplies u ∧ o.replies.length < n)) :
    (u.runFrom n maxRounds f target request check o).isSome := by
  unfold runFrom
  cases hstart : u.start maxRounds f target request check o with
  | mk session o' =>
    cases session with
    | error e => rfl
    | ok session =>
      obtain ⟨hmax, hrounds, ho⟩ := start_eq_ok hstart
      dsimp only
      rw [Option.isSome_map]
      rcases h with ⟨m, hm, hn⟩ | ⟨hagent, hcheck, hn⟩
      · obtain ⟨k, rfl⟩ : ∃ k, n = k + 1 := ⟨n - 1, by omega⟩
        exact isSome_run k (hmax.trans hm) (by dsimp only; omega)
      · refine isSome_run_of_replies hagent hcheck ?_
        dsimp only
        rw [ho, replies_firstCheck hcheck]
        exact hn

end Setup

end Redraft
