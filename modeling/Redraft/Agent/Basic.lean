import Redraft.Files.Walk

/-!
Agents answer prompts. An agent keeps a state of its own from one prompt to the next.
-/
namespace Redraft

structure Agent (σ : Type) where
  name : Text
  ask : Files → (system prompt : Text) → σ → Except Failure Text × σ

namespace Agent

def nextReply : List Text → Except Failure Text × List Text
  | [] => (.error (.agent .scriptExhausted), [])
  | reply :: rest => (.ok reply, rest)

def scripted : Agent (List Text) := ⟨"fake", fun _ _ _ replies => nextReply replies⟩

end Agent

end Redraft
