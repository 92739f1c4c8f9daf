import Redraft.Files.Real

/-!
Replacing a file in one step. The new content goes into a fresh file beside the old one, which then
takes its place under its name; a link is replaced and not followed. When a step fails, or the file
system refuses it, the fresh file is removed.
-/
namespace Redraft

/-- The steps of a write that a file system may refuse, for want of permission or room or for any
other reason that a tree does not show. -/
inductive WriteStep where
  | create
  | fill
  | inspect
  | setMode
  | replace

/-- What a file system refuses of a write, and how many bytes of the content it has taken when it
refuses to take all. -/
structure Refusals where
  step : WriteStep → Option FileError := fun _ => none
  taken : Nat := 0

namespace Tree

def freshMode : Nat := 0o600

def temporaryName (name : Text) (k : Nat) : Text :=
  Text.ofString "." ++ name ++ Text.ofString "." ++ Text.hex 8 k ++ Text.ofString ".tmp"

def freshName (t : Tree) (dir : Location) (name : Text) : Text :=
  let free (k : Nat) : Bool := (t.node? (dir ++ [temporaryName name k])).isNone
  temporaryName name (((List.range (t.entries.length + 1)).find? free).getD 0)

def createTemporary (t : Tree) (dir : Location) (name : Text) : Except FileError (Tree × Location) :=
  let temporary := t.freshName dir name
  if !t.isDir dir then .error .notDirectory
  else if longestName < byteCount temporary then .error .nameTooLong
  else .ok (t.put (dir ++ [temporary]) (.file [] freshMode), dir ++ [temporary])

def move (t : Tree) (source target : Location) : Except FileError Tree :=
  match t.node? source with
  | none => .error .notFound
  | some n => if t.isDir target then .error .isDirectory else .ok ((t.remove source).put target n)

end Tree

namespace Files

/-- The location that a path names as an entry of its directory; the entry need not exist. -/
def entry (f : Files) (p : Path) : Except FileError Location := do
  match p.names.getLast? with
  | none => .error .busy
  | some name =>
    let dir ← f.locate true p.parent
    if !f.tree.isDir dir then .error .notDirectory
    else if name = dotDot then .error .busy
    else .ok (dir ++ [name])

/-- The permission bits that a new file at a path gets: those of what the path leads to. -/
def modeFor (f : Files) (p : Path) : Except Failure Nat := do
  if ← f.exists? p then
    match f.stat p with
    | .ok (.file _ mode) => .ok mode
    | .ok (.dir mode) => .ok mode
    | _ => .ok Tree.freshMode
  else .ok Tree.freshMode

def nameable (p : Path) : Except Failure Unit :=
  match nameFault? p.toText with
  | some fault => .error fault
  | none => .ok ()

def permit : Option FileError → Except Failure Unit
  | none => .ok ()
  | some e => .error (.write e)

/-- The permission bits for the temporary file, looked up and set. They are set only if something is
at the path. -/
def settleMode (r : Refusals) (f : Files) (p : Path) : Except Failure Nat := do
  permit (r.step .inspect)
  let mode ← f.modeFor p
  if ← f.exists? p then permit (r.step .setMode)
  return mode

def takePlace (r : Refusals) (f : Files) (temporary : Location) (p : Path) : Except Failure Tree := do
  permit (r.step .replace)
  nameable p
  let target ← (f.entry p).mapError .write
  (f.tree.move temporary target).mapError .write

/-- Gives the temporary file its content and its mode, and moves it to the path. The tree is the one
at the step that ends it. -/
def fillAndMove (r : Refusals) (f : Files) (temporary : Location) (p : Path) (content : Text) :
    Except Failure Unit × Tree :=
  let holding (bytes : Bytes) (mode : Nat) : Tree := f.tree.put temporary (.file bytes mode)
  match Utf8.encode content with
  | .error fault => (.error (.unencodable fault), f.tree)
  | .ok bytes =>
    match r.step .fill with
    | some e => (.error (.write e), holding (bytes.take r.taken) Tree.freshMode)
    | none =>
      match settleMode r f p with
      | .error e => (.error e, holding bytes Tree.freshMode)
      | .ok mode =>
        match takePlace r ⟨holding bytes mode, f.cwd⟩ temporary p with
        | .error e => (.error e, holding bytes mode)
        | .ok tree => (.ok (), tree)

/-- Replaces the content of a file in one step, on a file system that may refuse any part of it. The
tree is the one after it, be it a success or not. -/
def writeAtomicUnless (r : Refusals) (f : Files) (p : Path) (content : Text) :
    Except Failure Unit × Tree :=
  let dir := f.absolute p.parent
  match nameFault? (dir.child p.name).toText with
  | some fault => (.error fault, f.tree)
  | none =>
    match (do
      permit (r.step .create)
      (do f.tree.createTemporary (← f.locate true dir) p.name).mapError Failure.write) with
    | .error e => (.error e, f.tree)
    | .ok (tree, temporary) =>
      match fillAndMove r ⟨tree, f.cwd⟩ temporary p content with
      | (.ok (), tree) => (.ok (), tree)
      | (.error e, tree) => (.error e, tree.remove temporary)

def writeAtomic (f : Files) (p : Path) (content : Text) : Except Failure Unit × Tree :=
  f.writeAtomicUnless {} p content

end Files

end Redraft
