import Redraft.Files.Tree
import Redraft.Failure

/-!
From paths to locations. Links are followed on the way, a limited number of them in one walk; the
last name is followed too unless the walk is told to stop at it.
-/
namespace Redraft

/-- A tree and the directory that relative paths start from. -/
structure Files where
  tree : Tree
  cwd : Location
  deriving DecidableEq

def dot : Text := "."
def dotDot : Text := ".."

def longestName : Nat := 255

def longestPath : Nat := 4095

def mostLinks : Nat := 40

def byteCount (t : Text) : Nat := (Utf8.encodeWith [0] t).length

namespace Tree

/-- A walk up to the next link. -/
inductive Leg where
  | arrived (l : Location)
  | stuck (e : FileError)
  | linked (dir : Location) (target : Text) (rest : List Text)

def walkLeg (t : Tree) (follow : Bool) (here : Location) : List Text → Leg
  | [] => .arrived here
  | name :: rest =>
    if !t.isDir here then .stuck .notDirectory
    else if name = dot then walkLeg t follow here rest
    else if name = dotDot then walkLeg t follow here.dropLast rest
    else if longestName < byteCount name then .stuck .nameTooLong
    else
      match t.node? (here ++ [name]) with
      | none => .stuck .notFound
      | some (.link target) =>
        if rest.isEmpty && !follow then .arrived (here ++ [name]) else .linked here target rest
      | some _ => walkLeg t follow (here ++ [name]) rest

/-- Where a link leads from its directory: a start and names. An empty name asks for a directory. -/
def linkRoute (dir : Location) (target : Text) : Location × List Text :=
  let names := (Text.split Path.slash target).map fun n => if n.isEmpty then dot else n
  (if target.head? = some Path.slash then [] else dir, names)

def walk (t : Tree) (follow : Bool) : Nat → Location → List Text → Except FileError Location
  | links, here, names =>
    match walkLeg t follow here names with
    | .arrived l => .ok l
    | .stuck e => .error e
    | .linked dir target rest =>
      match links with
      | 0 => .error .tooManyLinks
      | links + 1 =>
        let (start, names) := linkRoute dir target
        walk t follow links start (names ++ rest)

end Tree

/-- A lone surrogate that a file name cannot hold; one that stands for a byte can be held. -/
def isUnnameable : CodePoint → Bool
  | .scalar _ => false
  | .surrogate i => !(0x480 ≤ i.val && i.val < 0x500)

def nameFault? (t : Text) : Option Failure :=
  if t.any isUnnameable then
    let before := t.takeWhile fun c => !isUnnameable c
    let run := (t.drop before.length).takeWhile isUnnameable
    some (.unencodable ⟨run.head?.getD default, before.length, run.length⟩)
  else if t.any (·.value = 0) then some .nulInPath
  else none

namespace Files

def start (f : Files) (p : Path) : Location := if p.isAbsolute then [] else f.cwd

def locate (f : Files) (follow : Bool) (p : Path) : Except FileError Location :=
  if longestPath < byteCount p.toText then .error .nameTooLong
  else f.tree.walk follow mostLinks (f.start p) p.names

def stat (f : Files) (p : Path) : Except FileError Node :=
  match f.locate true p with
  | .error e => .error e
  | .ok l => match f.tree.node? l with
    | some n => .ok n
    | none => .error .notFound

/-- The errors that mean that nothing is there. -/
def FileError.meansAbsent (e : FileError) : Bool :=
  e = .notFound || e = .notDirectory || e = .tooManyLinks

def test (f : Files) (kind : Node → Bool) (p : Path) : Except Failure Bool :=
  if (nameFault? p.toText).isSome then .ok false
  else match f.stat p with
    | .ok n => .ok (kind n)
    | .error e => if FileError.meansAbsent e then .ok false else .error (.file e p.toText)

def exists? (f : Files) (p : Path) : Except Failure Bool := f.test (fun _ => true) p

def isFile (f : Files) (p : Path) : Except Failure Bool :=
  f.test (fun n => match n with | .file .. => true | _ => false) p

def isDirectory (f : Files) (p : Path) : Except Failure Bool :=
  f.test (fun n => match n with | .dir _ => true | _ => false) p

end Files

end Redraft
