import Redraft.Files.Read
import Redraft.Prompt.Block
import Redraft.Source.Language

/-!
Imported files, loaded as blocks. An import names a file beside the one that imports it; the first one
that cannot be loaded is the error, whatever comes after it.
-/
namespace Redraft.Source

def importBlock (f : Files) (importer : Path) (name : Text) : Except Failure Text := do
  let p := importer.parent.resolveFrom (.ofText name)
  if ← f.isFile p then
    let content ← f.readText p
    return (Block.file name (Text.trim content) none false).render
  else throw (.dependency name p importer)

/-- The blocks of all files that a text imports, in order, with blank lines between them. -/
def importBlocks (f : Files) (lang : Language) (importer : Path) (t : Text) : Except Failure Text := do
  let blocks ← (lang.imports t).mapM (importBlock f importer)
  return Text.join "\n\n" blocks

end Redraft.Source
