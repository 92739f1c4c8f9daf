import Redraft.Files.Real
import Redraft.Files.Read
import Redraft.Prompt.Block
import Redraft.Source.Definitions
import Redraft.Source.Language

/-!
Excerpts of files, and the blocks that answer requests for them. What is shown of a file depends on
the mode alone; a directory is always shown as its listing.
-/
namespace Redraft.Source

def exportLines (f : Files) (lang : Language) (p : Path) : Except Failure (List Text) :=
  (f.readLines p).map fun lines => (lines.map Text.trimLineEnd).filter lang.isExport

def definitionsIn (f : Files) (p : Path) (names : List Text) : Except Failure Text := do
  if names.isEmpty then throw .noNames
  let t ← f.readText p
  match definitions? t names with
  | some found => return found
  | none => throw .emptyName

def excerpt (f : Files) (lang : Language) (p : Path) (names : List Text) :
    Mode → Except Failure Text
  | .full => do if ← f.isDirectory p then f.listing p else f.readText p
  | .exports => (exportLines f lang p).map (Text.join "\n")
  | .definitions => definitionsIn f p names

def answerAt (f : Files) (lang : Language) (r : Request) (p : Path) : Except Failure Block := do
  if ← f.isDirectory p then return Block.directory p.toText (← f.listing p)
  else
    let content ← excerpt f lang p (r.definitions.getD []) r.mode
    return Block.file p.toText content (some r.mode.toText) false

/-- The block that answers a request. Its path is seen from a base directory and shown as the real
path that it leads to. -/
def answer (room : Nat) (f : Files) (lang : Language) (base : Path) (r : Request) :
    Except Failure Block := do
  answerAt f lang r (← f.realPath room (base.resolveFrom (.ofText r.path)))

def serve (room : Nat) (f : Files) (lang : Language) (base : Path) (rs : List Request) :
    Except Failure Text := do
  let blocks ← rs.mapM (answer room f lang base)
  return blocks.flatMap fun b => b.render ++ [Text.newline]

end Redraft.Source
