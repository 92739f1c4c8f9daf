import Redraft.Files.Read

/-!
Templates kept as files of one directory, each under its name and an ending. A name that goes up is
refused, whatever is there.
-/
namespace Redraft.Template

def below? (dir : Path) (file : Text) : Option Path :=
  let names := Text.split Path.slash file
  if names.contains dotDot then none
  else some ⟨dir.anchor, dir.names ++ names.filter fun n => !n.isEmpty && n ≠ dot⟩

def isThere (f : Files) (p : Path) : Bool :=
  match f.isFile p with
  | .ok found => found
  | .error _ => false

def load (f : Files) (dir : Path) (name : Text) : Except Failure Text :=
  let file := name ++ Text.ofString ".md"
  match below? dir file with
  | none => .error (.template (.outside file))
  | some p =>
    if isThere f p then f.readText p
    else .error (.template (.notFound file dir.toText))

end Redraft.Template
