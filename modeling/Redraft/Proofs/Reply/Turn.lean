import Redraft.Proofs.Reply.Tag
import Redraft.Reply.Turn

/-! What a reply is read as, by the first occurrences of its tags. The first show tag decides, if
there is one; else the first result tag does. -/
namespace Redraft.Turn

open Text

variable {room : Nat} {reply before rest payload content after : Text}
  {turn : Except ReplyError Turn}

/-- The turn or the error that a reply stands for. -/
inductive Reads (room : Nat) (reply : Text) : Except ReplyError Turn → Prop where
  | info {before rest payload after : Text} (opens : FirstAt showOpen reply before rest)
      (closes : FirstAt showClose rest payload after) :
      Reads room reply ((requests room (trim payload)).map Turn.info)
  | openInfo {before rest : Text} (opens : FirstAt showOpen reply before rest)
      (unclosed : ¬ showClose <:+: rest) : Reads room reply (.error (.unterminatedShow reply))
  | edit {before rest content after : Text} (noInfo : ¬ showOpen <:+: reply)
      (opens : FirstAt resultOpen reply before rest) (closes : FirstAt resultClose rest content after) :
      Reads room reply (.ok (Turn.edit content))
  | openEdit {before rest : Text} (noInfo : ¬ showOpen <:+: reply)
      (opens : FirstAt resultOpen reply before rest) (unclosed : ¬ resultClose <:+: rest) :
      Reads room reply (.error (.unterminatedResult reply))
  | neither (noInfo : ¬ showOpen <:+: reply) (noEdit : ¬ resultOpen <:+: reply) :
      Reads room reply (.error (.noTag reply))

theorem payload?_eq (reply : Text) : Tag.trimmedBody? showOpen showClose reply =
    (breakOn? showOpen reply).bind fun parts =>
      (breakOn? showClose parts.2).map fun parts => trim parts.1 :=
  Tag.trimmedBody?_eq (c := .scalar '<') rfl

theorem ofReply_eq_info (h1 : FirstAt showOpen reply before rest)
    (h2 : FirstAt showClose rest payload after) :
    ofReply room reply = (requests room (trim payload)).map Turn.info := by
  rw [ofReply, if_pos (Tag.occurs_iff.2 h1.occurs), payload?_eq, breakOn?_eq_some.2 h1,
    Option.bind_some, breakOn?_eq_some.2 h2]
  rfl

theorem ofReply_eq_unterminatedShow (h1 : FirstAt showOpen reply before rest)
    (h2 : ¬ showClose <:+: rest) : ofReply room reply = .error (.unterminatedShow reply) := by
  rw [ofReply, if_pos (Tag.occurs_iff.2 h1.occurs), payload?_eq, breakOn?_eq_some.2 h1,
    Option.bind_some, breakOn?_eq_none.2 h2]
  rfl

theorem ofReply_eq_edit (h : ¬ showOpen <:+: reply) (h1 : FirstAt resultOpen reply before rest)
    (h2 : FirstAt resultClose rest content after) : ofReply room reply = .ok (Turn.edit content) := by
  rw [ofReply, if_neg (mt Tag.occurs_iff.1 h), if_pos (Tag.occurs_iff.2 h1.occurs), Tag.body?_eq,
    breakOn?_eq_some.2 h1, Option.bind_some, breakOn?_eq_some.2 h2]
  rfl

theorem ofReply_eq_unterminatedResult (h : ¬ showOpen <:+: reply)
    (h1 : FirstAt resultOpen reply before rest) (h2 : ¬ resultClose <:+: rest) :
    ofReply room reply = .error (.unterminatedResult reply) := by
  rw [ofReply, if_neg (mt Tag.occurs_iff.1 h), if_pos (Tag.occurs_iff.2 h1.occurs), Tag.body?_eq,
    breakOn?_eq_some.2 h1, Option.bind_some, breakOn?_eq_none.2 h2]
  rfl

theorem ofReply_eq_noTag (h : ¬ showOpen <:+: reply) (h1 : ¬ resultOpen <:+: reply) :
    ofReply room reply = .error (.noTag reply) := by
  rw [ofReply, if_neg (mt Tag.occurs_iff.1 h), if_neg (mt Tag.occurs_iff.1 h1)]

theorem Reads.ofReply_eq (h : Reads room reply turn) : ofReply room reply = turn := by
  cases h with
  | info opens closes => exact ofReply_eq_info opens closes
  | openInfo opens unclosed => exact ofReply_eq_unterminatedShow opens unclosed
  | edit noInfo opens closes => exact ofReply_eq_edit noInfo opens closes
  | openEdit noInfo opens unclosed => exact ofReply_eq_unterminatedResult noInfo opens unclosed
  | neither noInfo noEdit => exact ofReply_eq_noTag noInfo noEdit

theorem exists_reads (room : Nat) (reply : Text) : ∃ turn, Reads room reply turn := by
  by_cases hshow : showOpen <:+: reply
  · obtain ⟨before, rest, opens⟩ := exists_firstAt hshow
    by_cases hclose : showClose <:+: rest
    · obtain ⟨payload, after, closes⟩ := exists_firstAt hclose
      exact ⟨_, .info opens closes⟩
    · exact ⟨_, .openInfo opens hclose⟩
  · by_cases hresult : resultOpen <:+: reply
    · obtain ⟨before, rest, opens⟩ := exists_firstAt hresult
      by_cases hclose : resultClose <:+: rest
      · obtain ⟨content, after, closes⟩ := exists_firstAt hclose
        exact ⟨_, .edit hshow opens closes⟩
      · exact ⟨_, .openEdit hshow opens hclose⟩
    · exact ⟨_, .neither hshow hresult⟩

/-- A reply is read as what it stands for, and an error that is not about a payload is about the
whole reply. -/
theorem ofReply_eq_iff_reads (room : Nat) (reply : Text) (turn : Except ReplyError Turn) :
    (ofReply room reply = turn ↔ Reads room reply turn) ∧
      ((ReplyError.unterminatedShow reply).content = reply ∧
        (ReplyError.unterminatedResult reply).content = reply ∧
        (ReplyError.noTag reply).content = reply) := by
  refine ⟨⟨fun h => ?_, Reads.ofReply_eq⟩, rfl, rfl, rfl⟩
  obtain ⟨turn', h'⟩ := exists_reads room reply
  rwa [← h, h'.ofReply_eq]

end Redraft.Turn
