import Redraft.Prompt.Block

/-!
The inputs that start a session and a repair. Each is made from blocks alone; nothing is carried
over from earlier inputs.
-/
namespace Redraft

namespace Prompt

def noErrors : Text := "No errors."

def fixRequest : Text := "Fix this file."

/-- The first input of a session: dependencies, target, request and, with checking on, what the
checker says of the target. -/
def first (path content request dependencies : Text) (check : Option Text) : Text :=
  let sections := [dependencies, (Block.file path content none true).render,
      (Block.request request).render]
    ++ (check.map fun t => (Block.check (if t.isEmpty then noErrors else t)).render).toList
  Text.join "\n\n" (sections.filter fun s => !s.isEmpty)

/-- The input after a failed check: the target as written and the diagnostics, nothing else. -/
def repair (path content diagnostics : Text) : Text :=
  Text.join "\n\n" [(Block.file path content none true).render,
    (Block.request fixRequest).render, (Block.check diagnostics).render]

end Prompt

end Redraft
