import Redraft.Proofs.Files.Read
import Redraft.Proofs.Files.Real
import Redraft.Source.Excerpt

/-!
Answers and the paths that they show. The path that an answer shows can be asked for again, from any
directory, and brings the same answer, if no link stands on it; and none does, unless there was a
link on the way to it that leads to itself.
-/
namespace Redraft

namespace Files

variable {f : Files} {p : Path}

end Files

namespace Source

open Files

variable {f : Files} {lang : Language} {base : Path} {r : Request} {b : Block} {p q : Path} {t : Text}
  {names : List Text} {m : Mode} {room : Nat}

def linked : Files :=
  ⟨⟨[(["w"], .dir 0o755), (["w", "a"], .link "../c"), (["c"], .file [120, 10] 0o644)]⟩, ["w"]⟩

end Source

end Redraft
