import Redraft.Proofs.Checker
import Redraft.Proofs.Session.Rounds
import Redraft.Proofs.Source.Excerpt
import Redraft.Proofs.Source.Imports

/-!
What a session fails with, given what the agent and the checkers fail with: a round fails with one of
these, with an operation on files, with a reply that means nothing or with the limit, and a run fails
as one of its rounds does.
-/
namespace Redraft.Setup

open Failure (OfFiles)

variable {σ : Type} {u : Setup σ} {P : Failure → Prop} {s s' : RunState σ} {e : Failure}

/-- The kinds of failure that belong to a session, whoever takes part in it. -/
structure Covers (P : Failure → Prop) : Prop where
  files : ∀ e, OfFiles e → P e
  dependency : ∀ name p importer, P (.dependency name p importer)
  reply : ∀ e, P (.reply e)
  roundLimit : ∀ limit rounds, P (.roundLimit limit rounds)

/-- An agent and checkers that fail with nothing but failures of a kind. -/
structure FailsWithin (P : Failure → Prop) (u : Setup σ) : Prop where
  ask : ∀ f system prompt s, FailsWith P (u.agent.ask f system prompt s).1
  check : ∀ f p s, FailsWith P (u.check f p s).1

theorem Edits.fails {content : Text} (hP : Covers P) (hu : FailsWithin P u)
    (h : Edits u content s (.failed e) s') : P e := by
  cases h with
  | unwritten hwrite =>
    rw [write_fst] at hwrite
    exact hP.files e (Files.writeAtomicUnless_fails _ _ _ _ e hwrite)
  | uncheckable hwrite hcheck houtcome => exact hu.check _ _ _ e houtcome

theorem Goes.fails (hP : Covers P) (hu : FailsWithin P u) (h : Goes u s (.failed e) s') : P e := by
  cases h with
  | spent hspent => exact hP.roundLimit _ _
  | unanswered hspent hask => exact hu.ask _ _ _ _ e hask
  | unread hspent hask hturn => exact hP.reply _
  | unserved hspent hask hturn hserve =>
    exact hP.files e (Source.serve_fails _ _ _ _ (Turn.named_of_ofReply hturn) e hserve)
  | edited hspent hask hturn hedit => exact hedit.fails hP hu

theorem run_fails (hP : Covers P) (hu : FailsWithin P u) {n : Nat}
    (h : u.run n s = some (.error e, s')) : P e := by
  induction n generalizing s with
  | zero => cases h
  | succ n ih =>
    rw [run] at h
    cases hround : u.round s with
    | mk r s₁ =>
      rw [hround] at h
      cases r with
      | again => exact ih h
      | finished result => cases h
      | failed e' =>
        cases h
        exact (goes_iff.2 hround).fails hP hu

theorem sources_fails (hP : Covers P) (f : Files) (target : Path) :
    FailsWith P (u.sources f target) := by
  refine ((Files.readText_fails f target).mono hP.files).bind fun content _ => ?_
  refine ((Source.importBlocks_fails f u.language target content).mono fun e he => ?_).bind
    fun imports _ => .ok _
  rcases he with ⟨name, p, rfl⟩ | he
  · exact hP.dependency name p target
  · exact hP.files e he

theorem firstCheck_fails (hu : FailsWithin P u) (f : Files) (target : Path) (check : Bool) (o : σ) :
    FailsWith P (u.firstCheck f target check o).1 := by
  cases check with
  | false => exact .ok none
  | true => exact (hu.check f target o).map _

theorem start_fails (hP : Covers P) (hu : FailsWithin P u) (maxRounds : Option Nat) (f : Files)
    (target : Path) (request : Text) (check : Bool) (o : σ) :
    FailsWith P (u.start maxRounds f target request check o).1 := by
  unfold start
  have hsources := sources_fails (u := u) hP f target
  cases h : u.sources f target with
  | error e => exact .error (hsources e h)
  | ok sources =>
    have hcheck := firstCheck_fails hu f target check o
    dsimp only
    cases hc : u.firstCheck f target check o with
    | mk diagnostics o' =>
      rw [hc] at hcheck
      cases diagnostics with
      | ok diagnostics => exact .ok _
      | error e => exact .error (hcheck e rfl)

theorem runFrom_fails (hP : Covers P) (hu : FailsWithin P u) {n : Nat} {maxRounds : Option Nat}
    {f g : Files} {target : Path} {request : Text} {check : Bool} {o o' : σ}
    (h : u.runFrom n maxRounds f target request check o = some (.error e, g, o')) : P e := by
  have hstart := start_fails hP hu maxRounds f target request check o
  unfold runFrom at h
  cases hs : u.start maxRounds f target request check o with
  | mk session o₁ =>
    rw [hs] at h hstart
    cases session with
    | error e' =>
      cases h
      exact hstart e rfl
    | ok session =>
      dsimp only at h
      rw [Option.map_eq_some_iff] at h
      obtain ⟨⟨result, s'⟩, hrun, heq⟩ := h
      cases heq
      exact run_fails hP hu hrun

end Redraft.Setup
