import Redraft.Proofs.Failure
import Redraft.Proofs.Reply.Turn

/-!
Replies whose payload goes beyond a limit of the reader of JSON. Their error is neither that of a
payload that is not well formed nor that of one that is no list of requests.
-/
namespace Redraft

namespace Json

/-- A whole number of so many digits, each of them a nine. -/
def nines (n : Nat) : Text := List.replicate n (.scalar '9')

variable {n room : Nat}

theorem takeWhile_nines (n : Nat) : (nines n).takeWhile isDigit = nines n := by
  have hdigit : isDigit (.scalar '9') = true := by decide
  rw [nines, List.takeWhile_replicate, if_pos hdigit]

theorem readNumber_nines (hn : longestInteger < n + 1) :
    readNumber (nines (n + 1)) = .error (.longInteger (n + 1)) := by
  have hread : readNumber (nines (n + 1)) =
      let whole := (nines (n + 1)).takeWhile isDigit
      if whole.isEmpty then .error (.malformed .expectingValue (nines (n + 1)))
      else
        let fraction := takeFraction ((nines (n + 1)).drop whole.length)
        let exponent := takeExponent fraction.2
        if fraction.1.isSome ∨ exponent.1.isSome then
          .ok (.float (Decimal.readParts false whole (fraction.1.getD []) (exponent.1.getD 0)),
            exponent.2)
        else if longestInteger < whole.length then .error (.longInteger whole.length)
        else .ok (.int ((Text.digits? 10 whole).getD 0 : Nat), exponent.2) := rfl
  have hlength : (nines (n + 1)).length = n + 1 := List.length_replicate
  rw [hread, takeWhile_nines]
  dsimp only
  rw [List.drop_length, hlength]
  exact if_pos hn

theorem decode_nines (hn : longestInteger < n + 1) :
    decode room (nines (n + 1)) = .error (.longInteger (n + 1)) := by
  have hmark : (nines (n + 1)).head?.any (·.value = 0xFEFF) = false := rfl
  have hspace : skipSpace (nines (n + 1)) = nines (n + 1) := rfl
  have hvalue (fuel room : Nat) :
      readValue (fuel + 1) room (nines (n + 1)) = readNumber (nines (n + 1)) := rfl
  rw [decode, hmark, hspace, hvalue, readNumber_nines hn]
  rfl

theorem trim_nines (n : Nat) : Text.trim (nines (n + 1)) = nines (n + 1) := by
  have hdrop : (nines (n + 1)).dropWhile (·.isBlank) = nines (n + 1) := rfl
  have hreverse : (nines (n + 1)).reverse = nines (n + 1) := List.reverse_replicate
  rw [Text.trim, Text.trimStart, hdrop, Text.trimEnd, hreverse, hdrop, hreverse]

end Json

namespace Turn

open Text

variable {room : Nat} {reply : Text}

theorem ofReply_limit_iff :
    (∃ payload failure, ofReply room reply = .error (.notJson payload failure) ∧ failure.Limit) ↔
      ∃ before rest payload after failure, FirstAt showOpen reply before rest ∧
        FirstAt showClose rest payload after ∧ Json.decode room (trim payload) = .error failure ∧
        failure.Limit := by
  constructor
  · rintro ⟨payload, failure, hreply, hlimit⟩
    obtain ⟨turn, hreads⟩ := exists_reads room reply
    have hturn := hreads.ofReply_eq
    rw [hreply] at hturn
    cases hreads with
    | @info before rest inside after opens closes =>
      refine ⟨before, rest, inside, after, failure, opens, closes, ?_, hlimit⟩
      unfold requests at hturn
      split at hturn
      · rename_i failure' hdecode
        cases hturn
        exact hdecode
      · split at hturn
        · cases hturn
        · cases hturn
    | openInfo => cases hturn
    | edit => cases hturn
    | openEdit => cases hturn
    | neither => cases hturn
  · rintro ⟨before, rest, payload, after, failure, opens, closes, hdecode, hlimit⟩
    refine ⟨trim payload, failure, ?_, hlimit⟩
    rw [ofReply_eq_info opens closes, requests, hdecode]
    rfl

theorem ofReply_nines {n : Nat} (hn : Json.longestInteger < n + 1) :
    ofReply room (showOpen ++ (Json.nines (n + 1) ++ showClose)) =
      .error (.notJson (Json.nines (n + 1)) (.longInteger (n + 1))) := by
  have opens : FirstAt showOpen (showOpen ++ (Json.nines (n + 1) ++ showClose)) []
      (Json.nines (n + 1) ++ showClose) := firstAt_here rfl
  have closes (k : Nat) : FirstAt showClose (Json.nines k ++ showClose) (Json.nines k) [] := by
    induction k with
    | zero => exact firstAt_here (List.append_nil _).symm
    | succ k ih =>
      refine (firstAt_cons ?_).2 ih
      rintro ⟨rest, hrest⟩
      cases hrest
  rw [ofReply_eq_info opens (closes (n + 1)), Json.trim_nines, requests, Json.decode_nines hn]
  rfl

end Turn

end Redraft
