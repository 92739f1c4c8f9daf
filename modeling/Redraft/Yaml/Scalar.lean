import Redraft.Failure
import Redraft.Yaml.Stream

/-!
The three written forms of a scalar: plain, between quotes, and as a block of lines. Lines are
folded: a single break is a space, and more breaks are one less.
-/
namespace Redraft.Yaml

def folded (first : CodePoint) (more : Text) : Text :=
  if first ≠ Text.newline then first :: more else if more.isEmpty then [space] else more

def flowMarks : Text := ",?[]\x7b\x7d"

def colonMarks : Text := ",[]\x7b\x7d"

/-- A part of a plain scalar, up to a gap, a mark or a colon. -/
def plainPart (inFlow : Bool) : Stream → Text × Stream
  | [] => ([], [])
  | s :: rest =>
    let next := Stream.head rest
    let isColon := s.char = .scalar ':' && (isGap next || (inFlow && colonMarks.contains next))
    if isGap s.char || isColon || (inFlow && flowMarks.contains s.char) then ([], s :: rest)
    else
      let (t, rest) := plainPart inFlow rest
      (s.char :: t, rest)

def plainBreaks : Stream → Option Text × Stream
  | [] => (some [], [])
  | s :: rest =>
    if s.char = space then plainBreaks rest
    else if isBreak s.char then
      if Stream.isAtSeparator rest then (none, rest)
      else
        let (t, rest) := plainBreaks rest
        (t.map (s.char :: ·), rest)
    else (some [], s :: rest)

/-- What is between two parts of a plain scalar, and whether it has a break; empty where the scalar
ends. -/
def plainGap (s : Stream) : Text × Bool × Stream :=
  let spaces := s.takeWhile (· = space)
  match s.skipSpaces with
  | [] => (spaces, false, [])
  | b :: rest =>
    if isBreak b.char then
      if Stream.isAtSeparator rest then ([], true, rest)
      else match plainBreaks rest with
        | (some more, rest) => (folded b.char more, true, rest)
        | (none, rest) => ([], true, rest)
    else (spaces, false, b :: rest)

def plainFrom (inFlow : Bool) (indent : Nat) : Nat → Text → Bool → Stream → Text × Bool × Stream
  | 0, _, broken, s => ([], broken, s)
  | fuel + 1, gap, broken, s =>
    let (part, rest) := plainPart inFlow s
    if s.head = .scalar '#' || part.isEmpty then ([], broken, s)
    else
      let (next, broken, rest) := plainGap rest
      if next.isEmpty || rest.head = .scalar '#' || (!inFlow && rest.column < indent) then
        (gap ++ part, broken, rest)
      else
        let (more, broken, rest) := plainFrom inFlow indent fuel next broken rest
        (gap ++ part ++ more, broken, rest)

/-- A plain scalar; outside brackets its lines are indented. -/
def plain (inFlow : Bool) (indent : Nat) (s : Stream) : Text × Bool × Stream :=
  plainFrom inFlow indent s.length [] false s

def quotedBreaks? (fresh : Bool) : Stream → Option (Text × Stream)
  | [] => some ([], [])
  | s :: rest =>
    if fresh && Stream.isAtSeparator (s :: rest) then none
    else if isInset s.char then quotedBreaks? false rest
    else if isBreak s.char then
      (quotedBreaks? true rest).map fun (t, rest) => (s.char :: t, rest)
    else some ([], s :: rest)

def escapes : List (Char × Nat) := [
  ('0', 0), ('a', 7), ('b', 8), ('t', 9), ('\t', 9), ('n', 10), ('v', 11), ('f', 12), ('r', 13),
  ('e', 0x1B), (' ', 0x20), ('"', 0x22), ('\\', 0x5C), ('/', 0x2F), ('N', 0x85), ('_', 0xA0),
  ('L', 0x2028), ('P', 0x2029)]

def escapeSizes : List (Char × Nat) := [('x', 2), ('u', 4), ('U', 8)]

def escaped : Stream → Except ConfigError (Text × Stream)
  | [] => .error .malformed
  | s :: rest =>
    if isBreak s.char then
      match quotedBreaks? true rest with
      | some found => .ok found
      | none => .error .malformed
    else match s.char with
      | .surrogate _ => .error .malformed
      | .scalar e =>
        match escapes.lookup e, escapeSizes.lookup e with
        | some n, _ => .ok ([.scalar (Char.ofNat n)], rest)
        | none, none => .error .malformed
        | none, some size =>
          match if rest.length < size then none else Text.digits? 16 (Stream.toText (rest.take size)) with
          | none => .error .malformed
          | some n =>
            match CodePoint.ofNat? n with
            | some c => .ok ([c], rest.drop size)
            | none => .error (if n < 0x80000000 then .badScalar "chr() arg not in range(0x110000)"
                else .hugeEscape)

def quotedFrom (double : Bool) : Nat → Stream → Except ConfigError (Text × Stream)
  | 0, _ => .error .malformed
  | _ + 1, [] => .error .malformed
  | fuel + 1, s :: rest =>
    let continued (t : Text) (rest : Stream) : Except ConfigError (Text × Stream) :=
      (quotedFrom double fuel rest).map fun (more, rest) => (t ++ more, rest)
    let quote : CodePoint := if double then .scalar '"' else .scalar '\''
    let blanks := Stream.takeWhile isInset (s :: rest)
    let after := Stream.dropWhile isInset (s :: rest)
    if s.char = endMark then .error .malformed
    else if isBreak after.head then
      match quotedBreaks? true (after.drop 1) with
      | some (more, rest) => continued (folded after.head more) rest
      | none => .error .malformed
    else if isInset s.char then continued blanks after
    else if !double && s.char = quote && Stream.head rest = quote then continued [quote] (rest.drop 1)
    else if s.char = quote then .ok ([], rest)
    else if double && s.char = .scalar '\\' then do
      let (t, rest) ← escaped rest
      continued t rest
    else continued [s.char] rest

def quoted (double : Bool) (s : Stream) : Except ConfigError (Text × Stream) :=
  quotedFrom double s.length (s.drop 1)

/-- What becomes of the last break of a block scalar and of the breaks behind it. -/
inductive Chomp where
  | strip
  | clip
  | keep
  deriving DecidableEq

def chomp? (c : CodePoint) : Option Chomp :=
  if c = .scalar '+' then some .keep else if c = .scalar '-' then some .strip else none

/-- The marks behind the first one of a block scalar: chomping and indentation, in either order. -/
def blockHeader (s : Stream) : Except ConfigError ((Chomp × Option Nat) × Stream) :=
  let sized (c : CodePoint) (s : Stream) : Except ConfigError (Option Nat × Stream) :=
    match c.digit? with
    | none => .ok (none, s)
    | some n => if n = 0 then .error .malformed else .ok (some n, s.drop 1)
  match chomp? s.head with
  | some chomp => do
    let (size, s) ← sized (s.peek 1) (s.drop 1)
    return ((chomp, size), s)
  | none => do
    let (size, s) ← sized s.head s
    match if size.isSome then chomp? s.head else none with
    | some chomp => return ((chomp, size), s.drop 1)
    | none => return ((.clip, size), s)

def blockBreaks (indent : Nat) : Stream → Text × Stream
  | [] => ([], [])
  | s :: rest =>
    if s.column < indent && s.char = space then blockBreaks indent rest
    else if isBreak s.char then
      let (t, rest) := blockBreaks indent rest
      (s.char :: t, rest)
    else ([], s :: rest)

def blockMargin : Stream → Text × Nat × Stream
  | [] => ([], 0, [])
  | s :: rest =>
    if s.char = space then
      let (t, widest, rest) := blockMargin rest
      (t, max widest (s.column + 1), rest)
    else if isBreak s.char then
      let (t, widest, rest) := blockMargin rest
      (s.char :: t, widest, rest)
    else ([], 0, s :: rest)

def blockLines (fold : Bool) (indent : Nat) : Nat → Text → Stream → Text × Text × Text × Stream
  | 0, breaks, s => ([], [], breaks, s)
  | fuel + 1, breaks, s =>
    if s.column ≠ indent || s.head = endMark then ([], [], breaks, s)
    else
      let line := s.takeWhile (fun c => !isLineEnd c)
      let rest := s.dropWhile (fun c => !isLineEnd c)
      let last : Text := if isBreak rest.head then [rest.head] else []
      let (next, rest) := blockBreaks indent (if isBreak rest.head then rest.drop 1 else rest)
      if rest.column = indent && rest.head ≠ endMark then
        let isFolded := fold && last = [Text.newline] && !isInset s.head && !isInset rest.head
        let between : Text := if isFolded then (if next.isEmpty then [space] else []) else last
        let (more, last, next, rest) := blockLines fold indent fuel next rest
        (breaks ++ line ++ between ++ more, last, next, rest)
      else (breaks ++ line, last, next, rest)

def block (fold : Bool) (least : Nat) (s : Stream) : Except ConfigError (Text × Stream) := do
  let ((chomp, size), s) ← blockHeader (s.drop 1)
  if !(s.head = space || isLineEnd s.head) then throw .malformed
  let some s := s.skipComment? | throw .malformed
  let least := max least 1
  let (breaks, indent, s) := match size with
    | some n =>
      let (breaks, s) := blockBreaks (least + n - 1) s
      (breaks, least + n - 1, s)
    | none =>
      let (breaks, widest, s) := blockMargin s
      (breaks, max least widest, s)
  let (t, last, breaks, s) := blockLines fold indent s.length breaks s
  return (t ++ (if chomp = .strip then [] else last) ++ (if chomp = .keep then breaks else []), s)

end Redraft.Yaml
