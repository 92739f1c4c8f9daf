import Redraft.CommandLine.Run
import Redraft.Host.System

/-!
The program. The files around the current directory and around the arguments are read into a tree, the
command line runs on it with the built-in programs as its host, and what it changed is written back.
-/
namespace Redraft.Program

def fuel : Nat := 1000000

/-- The room that a stack of a thousand calls leaves. -/
def room : Room := ⟨990, 492, 980⟩

def largestFile : UInt64 := 0x1000000

def shown (t : Text) : String :=
  String.ofList (t.filterMap fun
    | .scalar c => some c
    | .surrogate _ => none)

def wording : Detail → Text
  | .malformed => "the text is not well formed"
  | .issues list => Text.join "; " (list.map fun i => i.problem.message)

def locationText (l : Location) : String := shown (Path.toText ⟨.root, l⟩)

/-- Reads what is at a location. A link is known by the real path of what it leads to; what cannot be
read is nothing. Permission bits are not told, so that the usual ones stand for them. -/
def node? (l : Location) : IO (Option Node) := do
  let place := locationText l
  let read : IO (Option Node) := do
    let about ← (System.mkFilePath [place]).symlinkMetadata
    match about.type with
    | .dir => return some (.dir 0o755)
    | .symlink => return some (.link (Text.ofString (← IO.FS.realPath place).toString))
    | .file =>
      if about.byteSize ≤ largestFile then
        return some (.file (← IO.FS.readBinFile place).toList 0o644)
      else return none
    | .other => return none
  try read catch _ => return none

def namesIn (l : Location) : IO (List Text) := do
  try
    let entries ← (System.mkFilePath [locationText l]).readDir
    return entries.toList.map fun e => Text.ofString e.fileName
  catch _ => return []

partial def scan (t : Tree) (l : Location) : IO Tree := do
  match ← node? l with
  | none => return t
  | some n =>
    let t := t.put l n
    if t.isDir l then
      (← namesIn l).foldlM (fun t name => scan t (l ++ [name])) t
    else return t

def withDirs (t : Tree) (l : Location) : Tree :=
  (List.range l.length).foldl (fun t k =>
    if (t.node? (l.take k)).isSome then t else t.put (l.take k) (.dir 0o755)) t

def scanDir (t : Tree) (l : Location) : IO Tree := do
  if (t.node? l).isSome then return t
  let scanned ← scan t l
  return if scanned.isDir l then withDirs scanned l else t

/-- The directories that an argument may name a file in. -/
def dirsNear (f : Files) (arg : Text) : List Location :=
  let paths := arg :: ((Text.breakOn? "=" arg).map (·.2)).toList
  (paths.map fun p => (f.absolute (.ofText p)).names.dropLast).filter (· ≠ [])

def rights (mode : Nat) : IO.FileRight :=
  let allowed (bits : Nat) : IO.AccessRight := ⟨bits.testBit 2, bits.testBit 1, bits.testBit 0⟩
  ⟨allowed (mode / 64), allowed (mode / 8), allowed mode⟩

/-- Makes what is at a location what a tree has there. A file that was there keeps its permission bits,
as far as the tree does not change them. -/
def writeBack (before after : Tree) (l : Location) : IO Unit := do
  let place := locationText l
  let earlier := before.node? l
  if earlier ≠ after.node? l then
    match earlier, after.node? l with
    | some (.link _), _ => IO.FS.removeFile place
    | some (.file ..), none => IO.FS.removeFile place
    | _, _ => pure ()
    match after.node? l with
    | some (.file content mode) =>
      IO.FS.writeBinFile place ⟨content.toArray⟩
      let isKept : Bool := match earlier with
        | some (.file _ known) => known = mode
        | _ => false
      unless isKept do IO.setAccessRights place (rights mode)
    | some (.dir _) => IO.FS.createDirAll place
    | _ => pure ()

def write (out : IO.FS.Stream) (t : Text) : IO Unit := do
  out.write ⟨(Utf8.encodeWith [] t).toArray⟩
  out.flush

end Redraft.Program

open Redraft Redraft.Program in
def main (args : List String) : IO UInt32 := do
  let args := args.map Text.ofString
  let cwd := (Path.ofText (Text.ofString (← IO.currentDir).toString)).names
  let files : Files := ⟨⟨[]⟩, cwd⟩
  let before ← (cwd :: args.flatMap (dirsNear files)).foldlM scanDir ⟨[]⟩
  match CommandLine.run (Host.system room) () fuel ⟨before, cwd⟩ args with
  | none => return 1
  | some (exit, after) =>
    let places := (before.entries ++ after.tree.entries).map (·.1)
    places.eraseDups.forM (writeBack before after.tree)
    write (← IO.getStdout) exit.stdout
    let escaped := (exit.escaped?.bind (·.message? wording)).map CommandLine.Exit.line
    write (← IO.getStderr) (exit.stderr wording ++ escaped.getD [])
    return exit.code.toUInt32
