import Redraft.Files.Walk

/-!
The real path of a path: absolute, with all links on it replaced by what they lead to. What does
not exist is kept as it is written. A link that leads to itself is an error, and so is one with too many
links on the way to its end.
-/
namespace Redraft

/-- How far a path is resolved: all of it, or up to a link that leads to itself. `seen` holds the
links met so far, with their resolution once it is known. -/
structure Resolution where
  path : Path
  complete : Bool
  seen : List (Path × Option Path)

namespace Files

def above (p : Path) : Path :=
  match p.names.getLast? with
  | none => if p.isAbsolute then p else ⟨.relative, [dotDot]⟩
  | some name => if name = dotDot then p.child dotDot else p.parent

/-- What a path that is a link, not followed, leads to. -/
def linkTarget? (f : Files) (p : Path) : Option Text :=
  match f.locate false p with
  | .error _ => none
  | .ok l => match f.tree.node? l with
    | some (.link target) => some target
    | _ => none

/-- Adds names to a resolved path. `inner` resolves the targets of links. -/
def resolveNames (f : Files) (inner : Path → Text → List (Path × Option Path) →
      Except Failure Resolution) :
    Path → List (Path × Option Path) → List Text → Except Failure Resolution
  | path, seen, [] => .ok ⟨path, true, seen⟩
  | path, seen, name :: rest =>
    if name.isEmpty || name = dot then resolveNames f inner path seen rest
    else if name = dotDot then resolveNames f inner (above path) seen rest
    else
      let next := path.child name
      match nameFault? next.toText with
      | some fault => .error fault
      | none =>
        match f.linkTarget? next with
        | none => resolveNames f inner next seen rest
        | some target =>
          match seen.lookup next with
          | some (some known) => resolveNames f inner known seen rest
          | some none => .ok ⟨⟨next.anchor, next.names ++ rest⟩, false, seen⟩
          | none =>
            match inner path target ((next, none) :: seen) with
            | .error e => .error e
            | .ok r =>
              if r.complete then resolveNames f inner r.path ((next, some r.path) :: r.seen) rest
              else .ok ⟨⟨r.path.anchor, r.path.names ++ rest⟩, false, r.seen⟩

/-- Adds a text of names to a resolved path, with room for so many links inside each other. -/
def resolveText (f : Files) : Nat → Path → Text → List (Path × Option Path) →
    Except Failure Resolution
  | 0, _, _, _ => .error .linkDepth
  | room + 1, path, t, seen =>
    let start : Path := if t.head? = some Path.slash then ⟨.root, []⟩ else path
    resolveNames f (resolveText f room) start seen (Text.split Path.slash t)

/-- Names with double dots taken back, from the root on. -/
def normalize : List Text → List Text → List Text
  | done, [] => done
  | done, name :: rest =>
    if name.isEmpty || name = dot then normalize done rest
    else if name = dotDot then normalize done.dropLast rest
    else normalize (done ++ [name]) rest

def absolute (f : Files) (p : Path) : Path := ⟨.root, normalize (f.start p) p.names⟩

def realPath (room : Nat) (f : Files) (p : Path) : Except Failure Path := do
  let r ← resolveText f room ⟨.relative, []⟩ p.toText []
  let real := f.absolute r.path
  match f.stat real with
  | .error .tooManyLinks => .error (.linkLoop real.toText)
  | _ => .ok real

end Files

end Redraft
