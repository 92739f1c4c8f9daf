import Redraft.Shell.Field
import Redraft.Shell.Machine

/-!
The paths that a pattern matches. A star matches no slash, and no dot at the start of a name.
-/
namespace Redraft.Shell

namespace Machine

def isThere (m : Machine) (t : Text) : Bool :=
  match m.files.locate false (pathOf t) with
  | .ok l => (m.world.tree.node? l).isSome
  | .error _ => false

def isDirectory (m : Machine) (t : Text) : Bool :=
  match m.files.stat (pathOf t) with
  | .ok (.dir _) => true
  | _ => false

def namesIn (m : Machine) (dir : Text) : List Text :=
  match m.files.locate true (pathOf dir) with
  | .ok l =>
    if m.world.tree.isDir l then
      [dot, dotDot] ++ (m.world.tree.names l).map bytewise
    else []
  | .error _ => []

end Machine

def isSlash (m : Mark) : Bool := m.1 = Path.slash

/-- Whether a name may be matched: one with a dot at its start asks for a dot. -/
def isVisible (pattern : List Mark) (name : Text) : Bool :=
  name.head? ≠ some (.scalar '.') || pattern.head?.any fun m => m.1 = .scalar '.'

/-- The paths that go on as a pattern says, from a text that stands before it. -/
def pathsFrom (m : Machine) : Nat → (before : Text) → List Mark → List Text
  | 0, _, _ => []
  | fuel + 1, before, pattern =>
    let slashes := pattern.takeWhile isSlash
    let before := before ++ slashes.map (·.1)
    let pattern := pattern.drop slashes.length
    let part := pattern.takeWhile fun c => !isSlash c
    let rest := pattern.drop part.length
    if isPattern part then
      let pieces := patternOf part
      let names := (m.namesIn before).filter fun n => isVisible part n && fits pieces n
      names.flatMap fun n =>
        let path := before ++ n
        if rest.isEmpty then [path]
        else if m.isDirectory path then pathsFrom m fuel path rest
        else []
    else
      let path := before ++ part.map (·.1)
      if rest.isEmpty then if m.isThere path then [path] else []
      else pathsFrom m fuel path rest

def pathsOf (m : Machine) (field : List Mark) : List Text :=
  let itself := field.map (·.1)
  if m.has 'f' || !isPattern field then [itself]
  else match pathsFrom m (field.length + 1) [] field with
    | [] => [itself]
    | paths => paths.mergeSort Text.le

end Redraft.Shell
