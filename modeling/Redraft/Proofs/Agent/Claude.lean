import Redraft.Agent.Claude
import Redraft.Proofs.Host

/-!
Failed calls of the `claude` command. Success is judged before anything is made of the reply, so a
call that failed gives none, whatever it has printed.
-/
namespace Redraft.Claude

open Failure (OfHost)

variable {σ : Type} {room : Nat}

/-- Whether what was printed is an object that calls its result an error. -/
def saysError (room : Nat) (stdout : Text) : Bool :=
  match Json.decode room (Text.trim stdout) with
  | .ok (.map fields) => (Data.field? "is_error" fields).any Data.isTruthy
  | _ => false

/-- How a call fails: it takes too long or cannot be started, or it ends with a code, or it calls its
result an error. -/
inductive Failed (room : Nat) : Except Failure Output → Prop
  | unfinished (e : Failure) : Failed room (.error e)
  | code {o : Output} (h : o.returncode ≠ 0) : Failed room (.ok o)
  | error {o : Output} (h : saysError room o.stdout = true) : Failed room (.ok o)

theorem isTruthy_of_saysError {stdout text : Text} {report : Option Report}
    (h : saysError room stdout = true) (hparse : parseOutput room stdout = .ok (text, report)) :
    report.any (·.isError.isTruthy) = true := by
  rw [saysError] at h
  split at h
  · rename_i fields hdecode
    have hne : (Text.trim stdout).isEmpty = false := by
      cases htrim : Text.trim stdout with
      | nil =>
        rw [htrim] at hdecode
        exact absurd hdecode (Json.decode_nil room _)
      | cons => rfl
    cases hfield : Data.field? "is_error" fields with
    | none =>
      rw [hfield] at h
      cases h
    | some d =>
      rw [hfield] at h
      simp only [parseOutput, hne, hdecode] at hparse
      cases hparse
      simpa only [Option.any_some, Report.ofFields, hfield, Option.getD_some] using h
  · cases h

theorem reply_of_failed {o : Output} (h : Failed room (.ok o)) : ∃ e, reply room o = .error e := by
  cases hparse : parseOutput room o.stdout with
  | error e => exact ⟨e, by rw [reply, hparse]; rfl⟩
  | ok parsed =>
    obtain ⟨text, report⟩ := parsed
    have hrefused : o.returncode ≠ 0 ∨ report.any (·.isError.isTruthy) = true := by
      cases h with
      | code hcode => exact .inl hcode
      | error herror => exact .inr (isTruthy_of_saysError herror hparse)
    refine ⟨.agent (.refused o.returncode (failureDetail o.stderr text report)), ?_⟩
    rw [reply, hparse]
    exact if_pos hrefused

theorem ask_of_failed (h : Host σ) (c : Claude) (f : Files) {system prompt : Text} {s : σ}
    (hsystem : Utf8.unencodable? 0 system = none)
    (hfailed : Failed h.room.json (h.run f (c.command system prompt) s).1) :
    ∃ e, c.ask h f system prompt s = (.error e, (h.run f (c.command system prompt) s).2) := by
  simp only [ask, hsystem]
  cases hrun : h.run f (c.command system prompt) s with
  | mk answer s' =>
    rw [hrun] at hfailed
    cases answer with
    | ok o =>
      obtain ⟨e, he⟩ := reply_of_failed hfailed
      refine ⟨e, ?_⟩
      dsimp only
      rw [he]
    | error e =>
      cases e with
      | command e => exact ⟨_, rfl⟩
      | _ => exact ⟨_, rfl⟩

/-- A text that is not well formed is the reply itself; only a limit stops its reading. -/
theorem parseOutput_fails (room : Nat) (stdout : Text) :
    FailsWith (fun e => ∃ failure, e = .json failure ∧ failure.Limit) (parseOutput room stdout) := by
  unfold parseOutput
  dsimp only
  split_ifs
  · exact .ok _
  · split
    · exact .ok _
    · exact .ok _
    · exact .ok _
    · rename_i failure hnot hdecode
      refine .error ⟨failure, rfl, ?_⟩
      cases failure with
      | malformed cause position => exact absurd rfl (hnot cause position)
      | longInteger digits => exact .longInteger digits
      | tooDeep nest => exact .tooDeep nest

theorem ask_fails {h : Host σ} (hh : h.Ordinary) (c : Claude) (f : Files) (system prompt : Text)
    (s : σ) : FailsWith (fun e => (∃ error, e = .agent error) ∨ OfHost e ∨
      ∃ failure, e = .json failure ∧ failure.Limit) (c.ask h f system prompt s).1 := by
  unfold ask
  cases Utf8.unencodable? 0 system with
  | some fault => exact .error (.inr (.inl (.unencodable fault)))
  | none =>
    have hargv : (c.command system prompt).argv ≠ [] := List.cons_ne_nil _ _
    have hfails := hh f (c.command system prompt) s hargv
    dsimp only
    cases hrun : h.run f (c.command system prompt) s with
    | mk answer s' =>
      rw [hrun] at hfails
      cases answer with
      | ok o =>
        refine ((parseOutput_fails h.room.json o.stdout).mono fun e he => .inr (.inr he)).bind
          fun parsed _ => ?_
        dsimp only
        split_ifs
        · exact .error (.inl ⟨_, rfl⟩)
        · exact .ok _
      | error e =>
        rcases hfails e rfl with ⟨error, rfl⟩ | he
        · exact .error (.inl ⟨_, rfl⟩)
        · cases he with
          | file error path => exact .error (.inr (.inl (.file error path)))
          | nulInPath => exact .error (.inr (.inl .nulInPath))
          | unencodable fault => exact .error (.inr (.inl (.unencodable fault)))
          | longTime reason => exact .error (.inr (.inl (.longTime reason)))

end Redraft.Claude
