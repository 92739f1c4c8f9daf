import Redraft.Proofs.Reply.Turn

/-!
Replies with white space around them. The tags have none in them, so that each is first where it is
without it: a reply is read as the same turn, or fails in the same way, but for the text of the reply
that an error shows.
-/
namespace Redraft

namespace Text

/-- A mark without white space in it. -/
structure Unbroken (mark : Text) : Prop where
  ne_nil : mark ≠ []
  noBlank : ∀ c ∈ mark, c.isBlank = false

variable {mark t before after left right : Text}

theorem FirstAt.append_right (h : FirstAt mark t before after) (u : Text) :
    FirstAt mark (t ++ u) before (after ++ u) := by
  refine ⟨by rw [h.eq]; simp, fun b a hb => ?_⟩
  by_contra hlt
  have hlen := congrArg List.length h.eq
  simp only [List.length_append] at hlen
  -- an earlier occurrence would end inside `t`
  obtain ⟨r, hr⟩ : b ++ mark <+: t := by
    have hmark : b ++ mark <+: t ++ u := ⟨a, by rw [hb, List.append_assoc]⟩
    refine List.prefix_of_prefix_length_le hmark (List.prefix_append t u) ?_
    rw [List.length_append]
    omega
  exact hlt (h.first b r (by rw [← hr, List.append_assoc]))

theorem FirstAt.append_left {c : CodePoint} (hc : c ∉ left)
    (h : FirstAt (c :: mark) t before after) :
    FirstAt (c :: mark) (left ++ t) (left ++ before) after := by
  induction left with
  | nil => exact h
  | cons y left ih =>
    rw [List.mem_cons, not_or] at hc
    have hhere : ¬ c :: mark <+: y :: (left ++ t) := by
      rintro ⟨a, ha⟩
      exact hc.1 (List.cons.inj ha).1
    exact (firstAt_cons hhere).2 (ih hc.2)

theorem notMem_of_isBlank {c : CodePoint} (hc : c.isBlank = false) (ht : isBlank t = true) : c ∉ t :=
  fun hmem => Bool.false_ne_true (hc.symm.trans (List.all_eq_true.1 ht c hmem))

namespace Unbroken

theorem firstAt (hmark : mark.Unbroken) (hleft : isBlank left = true)
    (h : FirstAt mark t before after) (right : Text) :
    FirstAt mark (left ++ (t ++ right)) (left ++ before) (after ++ right) := by
  obtain ⟨c, mark, rfl⟩ := List.exists_cons_of_ne_nil hmark.ne_nil
  have hc := notMem_of_isBlank (hmark.noBlank c List.mem_cons_self) hleft
  exact (h.append_right right).append_left hc

theorem infix_append_right (hmark : mark.Unbroken) (hright : isBlank right = true) :
    mark <:+: t ++ right ↔ mark <:+: t := by
  obtain ⟨c, mark, rfl⟩ := List.exists_cons_of_ne_nil hmark.ne_nil
  cases right with
  | nil => rw [List.append_nil]
  | cons x right =>
    have hx : x ∉ mark := fun hmem => by
      have hblank := List.all_eq_true.1 hright x List.mem_cons_self
      exact Bool.false_ne_true ((hmark.noBlank x (List.mem_cons_of_mem c hmem)).symm.trans hblank)
    have hc := notMem_of_isBlank (hmark.noBlank c List.mem_cons_self) hright
    rw [infix_append_cons hx, or_iff_left]
    rw [← List.append_nil (x :: right), infix_append_iff_right hc]
    exact fun h => List.cons_ne_nil c mark (List.infix_nil.1 h)

theorem infix_append (hmark : mark.Unbroken) (hleft : isBlank left = true)
    (hright : isBlank right = true) : mark <:+: left ++ (t ++ right) ↔ mark <:+: t := by
  rw [← hmark.infix_append_right (t := t) hright]
  obtain ⟨c, mark, rfl⟩ := List.exists_cons_of_ne_nil hmark.ne_nil
  exact infix_append_iff_right (notMem_of_isBlank (hmark.noBlank c List.mem_cons_self) hleft)

end Unbroken

theorem exists_eq_trim (t : Text) : ∃ left right, isBlank left = true ∧ isBlank right = true ∧
    t = left ++ (trim t ++ right) := by
  have hblank (p : Text) : isBlank (p.takeWhile (·.isBlank)) = true :=
    List.all_eq_true.2 fun c hc => List.mem_takeWhile_imp hc
  refine ⟨t.takeWhile (·.isBlank), ((trimStart t).reverse.takeWhile (·.isBlank)).reverse, hblank t,
    ?_, ?_⟩
  · rw [isBlank, List.all_reverse]
    exact hblank _
  · rw [trim, trimEnd, ← List.reverse_append, List.takeWhile_append_dropWhile, List.reverse_reverse,
      trimStart, List.takeWhile_append_dropWhile]

end Text

/-- The same error about another reply. What is wrong with a payload has nothing to do with the rest
of the reply. -/
def ReplyError.about (reply : Text) : ReplyError → ReplyError
  | unterminatedShow _ => unterminatedShow reply
  | unterminatedResult _ => unterminatedResult reply
  | noTag _ => noTag reply
  | notJson payload failure => notJson payload failure
  | notRequests payload issues => notRequests payload issues

namespace Turn

open Text

variable {room : Nat} {reply : Text} {turn : Except ReplyError Turn}

theorem unbroken_showOpen : showOpen.Unbroken := ⟨by decide, by decide⟩

theorem unbroken_showClose : showClose.Unbroken := ⟨by decide, by decide⟩

theorem unbroken_resultOpen : resultOpen.Unbroken := ⟨by decide, by decide⟩

theorem unbroken_resultClose : resultClose.Unbroken := ⟨by decide, by decide⟩

theorem mapError_requests (reply payload : Text) :
    (requests room payload).mapError (ReplyError.about reply) = requests room payload := by
  rw [requests]
  split
  · rfl
  · split <;> rfl

/-- White space around a reply changes nothing of what it is read as. -/
theorem Reads.append {left right : Text} (hleft : isBlank left = true) (hright : isBlank right = true)
    (h : Reads room reply turn) : Reads room (left ++ (reply ++ right))
      (turn.mapError (ReplyError.about (left ++ (reply ++ right)))) := by
  cases h with
  | @info before rest payload after opens closes =>
    have hturn : ((requests room (trim payload)).map Turn.info).mapError
        (ReplyError.about (left ++ (reply ++ right))) = (requests room (trim payload)).map Turn.info := by
      conv_rhs => rw [← mapError_requests (left ++ (reply ++ right)) (trim payload)]
      cases requests room (trim payload) <;> rfl
    rw [hturn]
    exact .info (unbroken_showOpen.firstAt hleft opens right) (closes.append_right right)
  | openInfo opens unclosed =>
    exact .openInfo (unbroken_showOpen.firstAt hleft opens right)
      (mt (unbroken_showClose.infix_append_right hright).1 unclosed)
  | edit noInfo opens closes =>
    exact .edit (mt (unbroken_showOpen.infix_append hleft hright).1 noInfo)
      (unbroken_resultOpen.firstAt hleft opens right) (closes.append_right right)
  | openEdit noInfo opens unclosed =>
    exact .openEdit (mt (unbroken_showOpen.infix_append hleft hright).1 noInfo)
      (unbroken_resultOpen.firstAt hleft opens right)
      (mt (unbroken_resultClose.infix_append_right hright).1 unclosed)
  | neither noInfo noEdit =>
    exact .neither (mt (unbroken_showOpen.infix_append hleft hright).1 noInfo)
      (mt (unbroken_resultOpen.infix_append hleft hright).1 noEdit)

theorem ofReply_eq_trim (room : Nat) (reply : Text) :
    ofReply room reply = (ofReply room (trim reply)).mapError (ReplyError.about reply) := by
  obtain ⟨left, right, hleft, hright, heq⟩ := exists_eq_trim reply
  obtain ⟨turn, hreads⟩ := exists_reads room (trim reply)
  have happend := hreads.append hleft hright
  rw [← heq] at happend
  rw [hreads.ofReply_eq, happend.ofReply_eq]

end Turn

end Redraft
