import Redraft.Json.Decode
import Redraft.Reply.Request
import Redraft.Reply.Tag

/-!
What a reply of the agent means. A show tag asks for context and takes precedence; a result tag
brings the new text of the target; anything else is an error.
-/
namespace Redraft

inductive Turn where
  | info (requests : List Request)
  | edit (content : Text)

/-- Why a reply means nothing. -/
inductive ReplyError where
  | unterminatedShow (reply : Text)
  | unterminatedResult (reply : Text)
  | noTag (reply : Text)
  | notJson (payload : Text) (failure : Json.Failure)
  | notRequests (payload : Text) (issues : List Issue)

namespace Turn

def showOpen : Text := "<SHOW>"
def showClose : Text := "</SHOW>"
def resultOpen : Text := "<RESULT>"
def resultClose : Text := "</RESULT>"

def requests (room : Nat) (payload : Text) : Except ReplyError (List Request) :=
  match Json.decode room payload with
  | .error failure => .error (.notJson payload failure)
  | .ok d =>
    match Schema.list Request.ofData d with
    | .error issues => .error (.notRequests payload issues)
    | .ok rs => .ok rs

def ofReply (room : Nat) (reply : Text) : Except ReplyError Turn :=
  if Tag.occurs showOpen reply then
    match Tag.trimmedBody? showOpen showClose reply with
    | some payload => (requests room payload).map info
    | none => .error (.unterminatedShow reply)
  else if Tag.occurs resultOpen reply then
    match Tag.body? resultOpen resultClose reply with
    | some content => .ok (edit content)
    | none => .error (.unterminatedResult reply)
  else .error (.noTag reply)

end Turn

namespace ReplyError

def previewLength : Nat := 500

/-- The text that the error is about: the payload if there is one, else the whole reply. -/
def content : ReplyError → Text
  | unterminatedShow reply => reply
  | unterminatedResult reply => reply
  | noTag reply => reply
  | notJson payload _ => payload
  | notRequests payload _ => payload

def message (wording : List Issue → Text) : ReplyError → Text
  | unterminatedShow _ => "Unterminated <SHOW> tag in agent output"
  | unterminatedResult _ => "Unterminated <RESULT> tag in agent output"
  | noTag reply =>
    Text.ofString "Agent output has neither <SHOW> nor <RESULT>. Content preview: "
      ++ reply.take previewLength
  | notJson payload failure =>
    match failure with
    | .malformed .. => Text.ofString "SHOW payload is not valid JSON: " ++ failure.message payload
    | _ => failure.message payload
  | notRequests _ issues =>
    Text.ofString "SHOW payload is not a list of context requests: " ++ wording issues

end ReplyError

end Redraft
