import Redraft.Agent.Basic
import Redraft.Config.Basic
import Redraft.Host.Basic
import Redraft.Json.Decode
import Redraft.Text.Blank

/-!
The agent behind the `claude` command. The prompt is its input and the reply is the result field of
the object that it prints; text that is no object is the reply itself. A reply counts only if the
command ended well and does not call its result an error.
-/
namespace Redraft

structure Claude where
  model : Text
  binary : Text := "claude"
  extraArgs : List Text := []
  timeout : Seconds := .whole 600

namespace Claude

def ofConfig (c : AgentConfig) (model : Option Text) : Claude :=
  ⟨c.resolveModel model, c.binary, c.extraArgs, .whole c.timeout⟩

def commandLine (c : Claude) (systemFile : Text) : List Text :=
  [c.binary, "-p", "--output-format", "json", "--model", c.model, "--system-prompt-file", systemFile,
    "--tools", []] ++ c.extraArgs

/-- What is printed along with a result. -/
structure Report where
  isError : Data
  subtype : Data
  cost : Data
  duration : Data
  turns : Data
  session : Data

def Report.ofFields (fields : List (Data × Data)) : Report :=
  let get (name : String) (absent : Data) : Data := (Data.field? name fields).getD absent
  ⟨get "is_error" (.bool false), get "subtype" .null, get "total_cost_usd" .null,
    get "duration_ms" .null, get "num_turns" .null, get "session_id" .null⟩

def parseOutput (room : Nat) (stdout : Text) : Except Failure (Text × Option Report) :=
  let content := Text.trim stdout
  if content.isEmpty then .ok ([], none)
  else match Json.decode room content with
    | .ok (.map fields) =>
      .ok (((Data.field? "result" fields).getD (.text [])).display, some (Report.ofFields fields))
    | .ok _ | .error (.malformed ..) => .ok (content, none)
    | .error failure => .error (.json failure)

/-- What a failed call says: its errors, or else its reply, or else the kind of its result. -/
def failureDetail (stderr reply : Text) (report : Option Report) : Text :=
  if !Text.isBlank stderr then Text.trim stderr
  else if !reply.isEmpty then reply
  else Text.ofString "subtype=" ++ ((report.map Report.subtype).getD Data.null).display

def reply (room : Nat) (o : Output) : Except Failure Text := do
  let (text, report) ← parseOutput room o.stdout
  if o.returncode ≠ 0 ∨ report.any (·.isError.isTruthy) then
    throw (.agent (.refused o.returncode (failureDetail o.stderr text report)))
  return text

def command (c : Claude) (system prompt : Text) : Command :=
  ⟨c.commandLine Command.systemFile, some c.timeout, some prompt, some system⟩

def ask {σ : Type} (h : Host σ) (c : Claude) (f : Files) (system prompt : Text) (s : σ) :
    Except Failure Text × σ :=
  match Utf8.unencodable? 0 system with
  | some fault => (.error (.unencodable fault), s)
  | none =>
    match h.run f (c.command system prompt) s with
    | (.ok o, s) => (reply h.room.json o, s)
    | (.error (.command e), s) => (.error (.agent (.command e)), s)
    | (.error e, s) => (.error e, s)

def agent {σ : Type} (h : Host σ) (c : Claude) : Agent σ := ⟨"claude_code", ask h c⟩

end Claude

end Redraft
