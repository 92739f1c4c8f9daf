import Redraft.Agent.Claude
import Redraft.Host.Playback
import Redraft.Proofs.Json.Extent
import Redraft.Proofs.Reply.Margin

/-!
The two ways in which the `claude` command gives a reply: as what it prints, with any white space
around it, and as the result of an object. Only the first loses the white space around the reply, and
that makes no difference to what the reply is read as.
-/
namespace Redraft

/-- The kinds of error that a reply can come to: it cannot be used, or its payload goes beyond a
limit of the reader of JSON. -/
inductive ReplyError.Kind where
  | unusable
  | longInteger
  | tooDeep
  deriving DecidableEq

def ReplyError.kind : ReplyError → Kind
  | notJson _ (.longInteger _) => .longInteger
  | notJson _ (.tooDeep _) => .tooDeep
  | _ => .unusable

theorem ReplyError.kind_about (reply : Text) (e : ReplyError) : (e.about reply).kind = e.kind := by
  cases e <;> rfl

/-- Two readings of replies that come to the same turn, or to errors of one kind. -/
inductive Turn.Agree : Except ReplyError Turn → Except ReplyError Turn → Prop
  | turn (t : Turn) : Agree (.ok t) (.ok t)
  | error {e e' : ReplyError} (same : e.kind = e'.kind) : Agree (.error e) (.error e')

theorem Turn.agree_trim (room : Nat) (reply : Text) :
    Agree (ofReply room (Text.trim reply)) (ofReply room reply) := by
  rw [ofReply_eq_trim room reply]
  cases ofReply room (Text.trim reply) with
  | ok t => exact .turn t
  | error e => exact .error (ReplyError.kind_about reply e).symm

theorem Text.trim_of_blanks {left right : Text} (hleft : isBlank left = true)
    (hright : isBlank right = true) (t : Text) : trim (left ++ t ++ right) = trim t := by
  calc trim (left ++ t ++ right)
      = trim (trimEnd (left ++ t ++ right)) := (trim_trimEnd _).symm
    _ = trim (left ++ t) := by rw [trimEnd_append, if_pos hright, trim_trimEnd]
    _ = trim (trimStart (left ++ t)) := (trim_trimStart _).symm
    _ = trim t := by rw [trimStart_append, if_pos hleft, trim_trimStart]

namespace Data

def text? : Data → Option Text
  | text t => some t
  | _ => none

def fields? : Data → Option (List (Data × Data))
  | map fields => some fields
  | _ => none

theorem text?_eq_some {d : Data} {t : Text} : d.text? = some t ↔ d = .text t := by
  cases d <;> simp [text?]

theorem fields?_eq_some {d : Data} {fields : List (Data × Data)} :
    d.fields? = some fields ↔ d = .map fields := by
  cases d <;> simp [fields?]

end Data

namespace Claude

variable {σ τ : Type} {room : Nat}

/-- A text that is no JSON object: it is not well formed, or it is another value. -/
def IsNoObject (room : Nat) (content : Text) : Prop :=
  (∃ cause position, Json.decode room content = .error (.malformed cause position)) ∨
    ∃ d, Json.decode room content = .ok d ∧ ∀ fields, d ≠ .map fields

theorem reply_of_isNoObject {stdout : Text} (h : IsNoObject room (Text.trim stdout)) (stderr : Text) :
    reply room ⟨0, stdout, stderr⟩ = .ok (Text.trim stdout) := by
  have hparse : parseOutput room stdout = .ok (Text.trim stdout, none) := by
    unfold parseOutput
    dsimp only
    split_ifs with hempty
    · rw [List.isEmpty_iff.1 hempty]
    · rcases h with ⟨cause, position, hdecode⟩ | ⟨d, hdecode, hd⟩
      · rw [hdecode]
      · rw [hdecode]
        cases d with
        | map fields => exact absurd rfl (hd fields)
        | _ => rfl
  rw [reply, hparse]
  rfl

theorem reply_of_object {object s : Text} {fields : List (Data × Data)}
    (hobject : Json.decode room object = .ok (.map fields))
    (hresult : Data.field? "result" fields = some (.text s))
    (hquiet : (Data.field? "is_error" fields).any Data.isTruthy = false) (stderr : Text) :
    reply room ⟨0, object, stderr⟩ = .ok s := by
  have hne : (Text.trim object).isEmpty = false := by
    rw [Bool.eq_false_iff]
    intro hempty
    have hdecode := Json.decode_trim hobject
    rw [List.isEmpty_iff.1 hempty] at hdecode
    exact Json.decode_nil room _ hdecode
  have hparse : parseOutput room object = .ok (s, some (Report.ofFields fields)) := by
    unfold parseOutput
    dsimp only
    rw [hne, if_neg Bool.false_ne_true, Json.decode_trim hobject]
    dsimp only
    rw [hresult]
    rfl
  have herror : (Report.ofFields fields).isError.isTruthy = false := by
    cases hfield : Data.field? "is_error" fields with
    | none =>
      simp only [Report.ofFields, hfield]
      rfl
    | some d =>
      rw [hfield, Option.any_some] at hquiet
      simpa only [Report.ofFields, hfield, Option.getD_some] using hquiet
  rw [reply, hparse]
  exact if_neg (by simp [herror])

/-- One call of the command: by whom, and for what prompt. -/
structure Call (σ : Type) where
  host : Host σ
  claude : Claude
  files : Files
  system : Text
  prompt : Text
  state : σ

namespace Call

variable {k : Call σ} {stdout : Text}

def answer (k : Call σ) : Except Failure Text :=
  (k.claude.ask k.host k.files k.system k.prompt k.state).1

/-- A call that is made and ends well, with this printed and anything among the errors. -/
structure Prints (k : Call σ) (stdout : Text) : Prop where
  writable : Utf8.unencodable? 0 k.system = none
  ends : ∃ stderr, (k.host.run k.files (k.claude.command k.system k.prompt) k.state).1 =
    .ok ⟨0, stdout, stderr⟩

theorem Prints.answer_eq (h : k.Prints stdout) :
    ∃ stderr, k.answer = reply k.host.room.json ⟨0, stdout, stderr⟩ := by
  obtain ⟨stderr, hends⟩ := h.ends
  refine ⟨stderr, ?_⟩
  rw [answer, ask, h.writable]
  dsimp only
  cases hrun : k.host.run k.files (k.claude.command k.system k.prompt) k.state with
  | mk answer state =>
    obtain rfl : answer = .ok ⟨0, stdout, stderr⟩ := by rw [← hends, hrun]
    rfl

end Call

/-- A call that prints a reply, with any white space around it, and a call that prints an object with
the same reply as its result give replies that are read as the same turn or fail with errors of one
kind, whatever room there is for the reader. The reply is one that is not read as an object itself. -/
theorem transports_agree (plain : Call σ) (wrapped : Call τ) {s before after object : Text}
    {fields : List (Data × Data)} (hs : IsNoObject plain.host.room.json (Text.trim s))
    (hbefore : Text.isBlank before = true) (hafter : Text.isBlank after = true)
    (hplain : plain.Prints (before ++ s ++ after))
    (hobject : Json.decode wrapped.host.room.json object = .ok (.map fields))
    (hresult : Data.field? "result" fields = some (.text s))
    (hquiet : (Data.field? "is_error" fields).any Data.isTruthy = false)
    (hwrapped : wrapped.Prints object) :
    ∃ reply reply', plain.answer = .ok reply ∧ wrapped.answer = .ok reply' ∧
      ∀ room, Turn.Agree (Turn.ofReply room reply) (Turn.ofReply room reply') := by
  have htrim : Text.trim (before ++ s ++ after) = Text.trim s := Text.trim_of_blanks hbefore hafter s
  obtain ⟨stderr, hanswer⟩ := hplain.answer_eq
  obtain ⟨stderr', hanswer'⟩ := hwrapped.answer_eq
  refine ⟨Text.trim s, s, ?_, ?_, fun room => Turn.agree_trim room s⟩
  · rw [hanswer, reply_of_isNoObject (by rwa [htrim]), htrim]
  · rw [hanswer', reply_of_object hobject hresult hquiet]

def playing (stdout : Text) : Call Playback :=
  ⟨.playback ⟨2, 2, 2⟩, ⟨"sonnet", "claude", [], .whole 600⟩, ⟨⟨[]⟩, []⟩, "system", "prompt",
    ⟨[.output ⟨0, stdout, []⟩], []⟩⟩

theorem playing_prints (stdout : Text) : (playing stdout).Prints stdout := by
  have hsystem : Utf8.unencodable? 0 "system" = none := by decide +kernel
  exact ⟨hsystem, [], rfl⟩

/-- A reply with white space around it that is a string in JSON, with a tag in that. -/
def quotedReply : Text := " \"<RESULT> b </RESULT>\"\n"

/-- An object with that reply as its result, where the error is an array with nothing in it. -/
def quotedResult : Text :=
  "\n\x7b\"is_error\": [], \"result\": \" \\\"<RESULT> b </RESULT>\\\"\\n\"\x7d\n"

theorem isNoObject_quotedReply : IsNoObject 2 (Text.trim quotedReply) := by
  have hdecode : (Json.decode 2 (Text.trim quotedReply)).toOption.bind Data.text? =
      some "<RESULT> b </RESULT>" := by decide +kernel
  obtain ⟨d, hd, htext⟩ := Option.bind_eq_some_iff.1 hdecode
  obtain rfl := Data.text?_eq_some.1 htext
  exact .inr ⟨_, toOption_eq_some.1 hd, fun fields h => by cases h⟩

theorem decode_quotedResult : ∃ fields, Json.decode 2 quotedResult = .ok (.map fields) ∧
    Data.field? "result" fields = some (.text quotedReply) ∧
    (Data.field? "is_error" fields).any Data.isTruthy = false := by
  have hdecode : ((Json.decode 2 quotedResult).toOption.bind Data.fields?).map (fun fields =>
      ((Data.field? "result" fields).bind Data.text?,
        (Data.field? "is_error" fields).any Data.isTruthy)) = some (some quotedReply, false) := by
    decide +kernel
  obtain ⟨fields, hfields, hshown⟩ := Option.map_eq_some_iff.1 hdecode
  obtain ⟨d, hd, hmap⟩ := Option.bind_eq_some_iff.1 hfields
  obtain rfl := Data.fields?_eq_some.1 hmap
  obtain ⟨hresult, hquiet⟩ := Prod.mk.inj hshown
  obtain ⟨result, hfield, htext⟩ := Option.bind_eq_some_iff.1 hresult
  obtain rfl := Data.text?_eq_some.1 htext
  exact ⟨fields, toOption_eq_some.1 hd, hfield, hquiet⟩

theorem transports_agree_quoted :
    IsNoObject 2 (Text.trim quotedReply) ∧
    (∃ fields, Json.decode 2 quotedResult = .ok (.map fields) ∧
      Data.field? "result" fields = some (.text quotedReply)) ∧
    ∃ reply reply', (playing (Text.ofString "\t" ++ quotedReply ++ Text.ofString "\n")).answer =
      .ok reply ∧ (playing quotedResult).answer = .ok reply' ∧
      ∀ room, Turn.Agree (Turn.ofReply room reply) (Turn.ofReply room reply') := by
  obtain ⟨fields, hobject, hresult, hquiet⟩ := decode_quotedResult
  have hbefore : Text.isBlank "\t" = true := by decide +kernel
  have hafter : Text.isBlank "\n" = true := by decide +kernel
  exact ⟨isNoObject_quotedReply, ⟨fields, hobject, hresult⟩,
    transports_agree _ _ isNoObject_quotedReply hbefore hafter (playing_prints _) hobject hresult
      hquiet (playing_prints _)⟩

end Claude

end Redraft
