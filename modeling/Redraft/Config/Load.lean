import Redraft.Config.Read
import Redraft.Files.Read
import Redraft.Yaml.Value

/-!
Configurations from YAML texts and files. An empty text is the configuration without any setting; a
guide given relative to the file is seen from the directory of the file.
-/
namespace Redraft.Config

def ofYaml (room : Nat) (t : Text) : Except ConfigError Config :=
  match Yaml.read room t with
  | .error e => .error e
  | .ok .null => .ok {}
  | .ok (.map fields) => (ofData (.map fields)).mapError .issues
  | .ok _ => .error .notMapping

/-- A configuration with its guide seen from a directory. -/
def seenFrom (dir : Path) (c : Config) : Config := { c with guide := c.guide.map dir.resolveFrom }

def load (room : Nat) (f : Files) (p : Path) : Except Failure Config := do
  if ← f.exists? p then
    match ofYaml room (← f.readText p) with
    | .ok c => return c.seenFrom p.parent
    | .error e => throw (.config e)
  else throw (.configMissing p)

def fileName : Text := "sirecoder.yaml"

/-- The configuration file for a target: the one beside it, or else the one in the current
directory. -/
def find (f : Files) (target : Path) : Except Failure (Option Path) := do
  let beside := target.parent.child fileName
  if ← f.isFile beside then return some beside
  let here : Path := ⟨.root, f.cwd ++ [fileName]⟩
  if ← f.isFile here then return some here
  return none

end Redraft.Config
