import Redraft.Files.Walk
import Redraft.Text.Newline

/-!
Reading files and listing directories. Text is UTF-8 with its line ends made the same.
-/
namespace Redraft.Files

/-- An answer of the file system about a path, its refusals told with the path as it was given. -/
def named {α : Type} (p : Path) (x : Except FileError α) : Except Failure α :=
  match nameFault? p.toText with
  | some fault => .error fault
  | none => x.mapError fun e => .file e p.toText

def readBytes (f : Files) (p : Path) : Except Failure Bytes :=
  named p <| match f.stat p with
    | .ok (.file content _) => .ok content
    | .ok (.dir _) => .error .isDirectory
    | .ok (.link _) => .error .tooManyLinks
    | .error e => .error e

def decoded (x : Except Utf8.Fault Text) : Except Failure Text :=
  match x with
  | .ok t => .ok (Text.unifyNewlines t)
  | .error fault => .error (.undecodable fault)

def readText (f : Files) (p : Path) : Except Failure Text := do
  decoded (Utf8.decode (← f.readBytes p))

def pieceSize : Nat := 8192

def readLines (f : Files) (p : Path) : Except Failure (List Text) := do
  let t ← decoded (Utf8.decodePieces pieceSize (← f.readBytes p))
  return Text.readLines t

def list (f : Files) (p : Path) : Except Failure (List Text) :=
  named p <| match f.locate true p with
    | .error e => .error e
    | .ok l => if f.tree.isDir l then .ok (f.tree.names l) else .error .notDirectory

def listing (f : Files) (p : Path) : Except Failure Text :=
  (f.list p).map (Text.join "\n")

end Redraft.Files
