import Redraft.Yaml.Scalar

/-!
Tokens of a YAML text. Indentation opens and closes blocks, and a colon makes a mapping key of what
stands before it on its line; the token that says so is put in front of the key afterwards. So a token
that may start a key is known only when the scan has gone on, and a fault met on the way comes first.
-/
namespace Redraft.Yaml

inductive Directive where
  | version (major : Nat)
  | handle (name shorthand : Text)
  | unknown
  deriving DecidableEq

inductive Token where
  | directive (d : Directive)
  | documentStart
  | documentEnd
  | blockListStart
  | blockMapStart
  | blockEnd
  | flowListStart
  | flowListEnd
  | flowMapStart
  | flowMapEnd
  | flowEntry
  | blockEntry
  | key
  | value
  | alias (name : Text)
  | anchor (name : Text)
  | tag (handle : Option Text) (suffix : Text)
  | scalar (t : Text) (isPlain : Bool)
  | fault (e : ConfigError)
  deriving DecidableEq

/-- A place at which a mapping key may have started. -/
structure KeyStart where
  /-- How many tokens come before the key. -/
  number : Nat
  /-- In its place there can only be a key. -/
  required : Bool
  index : Nat
  line : Nat
  column : Nat

def longestKey : Nat := 1024

/-- A scan: the tokens so far, the last one first; the indentation of the open blocks, the innermost
first; and for each open bracket, and for none, the start of a key. -/
structure Scan where
  rest : Stream
  tokens : List Token
  indents : List Nat
  keys : List (Option KeyStart)
  keyAllowed : Bool

namespace Scan

def start (t : Text) : Scan := ⟨Stream.ofText t, [], [], [none], true⟩

def inFlow (s : Scan) : Bool := 1 < s.keys.length

def emit (t : Token) (s : Scan) : Scan := { s with tokens := t :: s.tokens }

def skip (n : Nat) (s : Scan) : Scan := { s with rest := s.rest.drop n }

def textIndent (s : Scan) : Nat := ((s.indents.head?).map (· + 1)).getD 0

/-- Closes the blocks that are indented further than a column, or all blocks. -/
def unwind (column : Option Nat) (s : Scan) : Scan :=
  let closed := s.indents.takeWhile fun i => column.all (· < i)
  { s with
    indents := s.indents.drop closed.length
    tokens := closed.map (fun _ => Token.blockEnd) ++ s.tokens }

def indentTo? (column : Nat) (s : Scan) : Option Scan :=
  if s.indents.head?.all (· < column) then some { s with indents := column :: s.indents } else none

def openBlock (t : Token) (s : Scan) : Scan :=
  match s.indentTo? s.rest.column with
  | some s => s.emit t
  | none => s

/-- The key that may have started and has not ended is none. -/
def dropKey (s : Scan) : Except ConfigError Scan :=
  match s.keys with
  | [] => .ok s
  | k :: outer =>
    if k.any (·.required) then .error .malformed else .ok { s with keys := none :: outer }

/-- Whether a key can no longer end here: keys are short and on one line. -/
def isStale (s : Scan) (k : KeyStart) : Bool :=
  match s.rest with
  | [] => false
  | x :: _ => k.line ≠ x.line || k.index + longestKey < x.index

def dropStaleKeys (s : Scan) : Except ConfigError Scan :=
  let stale (k : Option KeyStart) : Bool := k.any s.isStale
  if s.keys.any fun k => stale k && k.any (·.required) then .error .malformed
  else .ok { s with keys := s.keys.map fun k => if stale k then none else k }

def noteKey (s : Scan) : Except ConfigError Scan :=
  if !s.keyAllowed then .ok s
  else do
    let required := !s.inFlow && s.indents.head? = some s.rest.column
    let s ← s.dropKey
    match s.rest with
    | [] => return s
    | x :: _ =>
      let k : KeyStart := ⟨s.tokens.length, required, x.index, x.line, x.column⟩
      return { s with keys := some k :: s.keys.drop 1 }

def insert (number : Nat) (t : Token) (s : Scan) : Scan :=
  let after := s.tokens.length - number
  { s with tokens := s.tokens.take after ++ t :: s.tokens.drop after }

/-- Skips what is between tokens. A new line outside brackets can start with a key. -/
def skipGap (s : Scan) : Scan :=
  let rec go : Nat → Bool → Stream → Bool × Stream
    | 0, allowed, r => (allowed, r)
    | fuel + 1, allowed, r =>
      let r := r.skipSpaces
      let r := if r.head = .scalar '#' then r.dropWhile (fun c => !isLineEnd c) else r
      if isBreak r.head then go fuel (allowed || !s.inFlow) (r.drop 1) else (allowed, r)
  let r := match s.rest with
    | x :: rest => if x.index = 0 && x.char = byteOrderMark then rest else s.rest
    | [] => []
  let (allowed, r) := go (r.length + 1) s.keyAllowed r
  { s with keyAllowed := allowed, rest := r }

def isNameChar : CodePoint → Bool
  | .scalar c => c.isAlphanum || c = '-' || c = '_'
  | .surrogate _ => false

def isTagChar : CodePoint → Bool
  | .scalar c => c.isAlphanum || "-;/?:@&=+$,_.!~*'()[]%".toList.contains c
  | .surrogate _ => false

def percentBytes : Nat → Stream → Except ConfigError (Bytes × Stream)
  | 0, r => .ok ([], r)
  | fuel + 1, r =>
    if r.head ≠ .scalar '%' then .ok ([], r)
    else match r.drop 1 with
      | a :: b :: rest =>
        match Text.digits? 16 [a.char, b.char] with
        | none => .error .malformed
        | some n => (percentBytes fuel rest).map fun (more, rest) => (n.toUInt8 :: more, rest)
      | _ => .error .malformed

def tagText : Nat → Stream → Except ConfigError (Text × Stream)
  | 0, _ => .error .malformed
  | fuel + 1, r =>
    if r.head = .scalar '%' then do
      let (bytes, r) ← percentBytes r.length r
      match Utf8.decode bytes with
      | .error _ => throw .malformed
      | .ok t =>
        let (more, r) ← if isTagChar r.head then tagText fuel r else pure ([], r)
        return (t ++ more, r)
    else
      match r.takeWhile fun c => isTagChar c && c ≠ .scalar '%' with
      | [] => .error .malformed
      | t => do
        let r : Stream := r.drop t.length
        let (more, r) ← if isTagChar r.head then tagText fuel r else pure ([], r)
        return (t ++ more, r)

def tagHandle (r : Stream) : Except ConfigError (Text × Stream) :=
  if r.head ≠ .scalar '!' then .error .malformed
  else if r.peek 1 = space then .ok ("!", r.drop 1)
  else
    let name := Stream.takeWhile isNameChar (r.drop 1)
    let rest : Stream := r.drop (1 + name.length)
    if rest.head ≠ .scalar '!' then .error .malformed
    else .ok (Text.ofString "!" ++ name ++ Text.ofString "!", rest.drop 1)

def endsWord (c : CodePoint) : Bool := c = space || isLineEnd c

def tag (r : Stream) : Except ConfigError (Token × Stream) := do
  let next := r.peek 1
  let (token, rest) ←
    if next = .scalar '<' then do
      let (t, rest) ← tagText r.length (r.drop 2)
      if rest.head ≠ .scalar '>' then throw .malformed
      pure (Token.tag none t, rest.drop 1)
    else if isGap next then pure (Token.tag none "!", r.drop 1)
    else do
      let word := Stream.takeWhile (fun c => !endsWord c) (r.drop 1)
      let (handle, rest) ←
        if word.contains (.scalar '!') then tagHandle r else pure (Text.ofString "!", r.drop 1)
      let (t, rest) ← tagText r.length rest
      pure (Token.tag (some handle) t, rest)
  if endsWord (Stream.head rest) then return (token, rest) else throw .malformed

def nameEnds : Text := "?:,]\x7d%@\x60"

def anchorName (r : Stream) : Except ConfigError (Text × Stream) :=
  let name := Stream.takeWhile isNameChar (r.drop 1)
  let rest : Stream := r.drop (1 + name.length)
  if name.isEmpty || !(isGap rest.head || nameEnds.contains rest.head) then .error .malformed
  else .ok (name, rest)

def number (r : Stream) : Except ConfigError (Nat × Stream) :=
  let digits := r.takeWhile fun c => c.digit?.isSome
  match Text.digits? 10 digits with
  | some n => .ok (n, r.drop digits.length)
  | none => .error .malformed

def directive (r : Stream) : Except ConfigError (Token × Stream) := do
  let r : Stream := r.drop 1
  let name := r.takeWhile isNameChar
  let r : Stream := r.drop name.length
  if name.isEmpty || !endsWord r.head then throw .malformed
  let (d, r) ←
    if name = Text.ofString "YAML" then do
      let (major, r) ← number r.skipSpaces
      if r.head ≠ .scalar '.' then throw .malformed
      let (_, r) ← number (r.drop 1)
      if !endsWord r.head then throw .malformed
      pure (Directive.version major, r)
    else if name = Text.ofString "TAG" then do
      let (handle, r) ← tagHandle r.skipSpaces
      if r.head ≠ space then throw .malformed
      let (t, r) ← tagText r.length r.skipSpaces
      if !endsWord r.head then throw .malformed
      pure (Directive.handle handle t, r)
    else pure (Directive.unknown, r.dropWhile fun c => !isLineEnd c)
  match r.skipComment? with
  | some r => return (.directive d, r)
  | none => throw .malformed

/-- A scan whose next token is neither a key nor inside a block. -/
def leaveBlocks (s : Scan) : Except ConfigError Scan := do
  let s ← (if s.inFlow then s else s.unwind none).dropKey
  return { s with keyAllowed := false }

def takeKey (read : Stream → Except ConfigError (Token × Stream)) (s : Scan) :
    Except ConfigError Scan := do
  let s ← s.noteKey
  let (t, r) ← read s.rest
  return { s.emit t with rest := r, keyAllowed := false }

def takePlain (s : Scan) : Except ConfigError Scan := do
  let s ← s.noteKey
  let (t, broken, r) := plain s.inFlow s.textIndent s.rest
  return { s.emit (.scalar t true) with rest := r, keyAllowed := broken }

def takeBlock (fold : Bool) (s : Scan) : Except ConfigError Scan := do
  let s ← s.dropKey
  let (t, r) ← block fold s.textIndent s.rest
  return { s.emit (.scalar t false) with rest := r, keyAllowed := true }

def openBracket (t : Token) (s : Scan) : Except ConfigError Scan := do
  let s ← s.noteKey
  return { (s.emit t).skip 1 with keys := none :: s.keys, keyAllowed := true }

def closeBracket (t : Token) (s : Scan) : Except ConfigError Scan := do
  let s ← s.dropKey
  if !s.inFlow then throw .malformed
  return { (s.emit t).skip 1 with keys := s.keys.drop 1, keyAllowed := false }

def takeEntry (opening mark : Token) (allowedInFlow : Bool) (s : Scan) : Except ConfigError Scan := do
  if !s.inFlow && !s.keyAllowed then throw .malformed
  let s := if s.inFlow then s else s.openBlock opening
  let s ← s.dropKey
  return { (s.emit mark).skip 1 with keyAllowed := allowedInFlow || !s.inFlow }

/-- Takes a colon: what started as a key is one, or the colon starts a value of its own. -/
def takeValue (s : Scan) : Except ConfigError Scan :=
  match s.keys with
  | some k :: outer =>
    let s := ({ s with keys := none :: outer, keyAllowed := false } : Scan).insert k.number .key
    let s := match if s.inFlow then none else s.indentTo? k.column with
      | some s => s.insert k.number .blockMapStart
      | none => s
    .ok ((s.emit .value).skip 1)
  | _ => takeEntry .blockMapStart .value false s

def startsPlain (s : Scan) : Bool :=
  let c := s.rest.head
  let marks : Text := "-?:,[]\x7b\x7d#&*!|>'\"%@\x60"
  !(isGap c || marks.contains c) || (!isGap (s.rest.peek 1)
    && (c = .scalar '-' || (!s.inFlow && (c = .scalar '?' || c = .scalar ':'))))

def isAtMark (mark : Text) (s : Scan) : Bool := s.rest.column = 0 && s.rest.isAtMark mark

def take (c : CodePoint) (s : Scan) : Except ConfigError Scan :=
  let standsAlone := s.inFlow || isGap (s.rest.peek 1)
  let otherwise : Except ConfigError Scan := if s.startsPlain then s.takePlain else .error .malformed
  match c with
  | .surrogate _ => .error .malformed
  | .scalar '[' => s.openBracket .flowListStart
  | .scalar '{' => s.openBracket .flowMapStart
  | .scalar ']' => s.closeBracket .flowListEnd
  | .scalar '}' => s.closeBracket .flowMapEnd
  | .scalar ',' => do
    let s ← s.dropKey
    return { (s.emit .flowEntry).skip 1 with keyAllowed := true }
  | .scalar '-' =>
    if isGap (s.rest.peek 1) then s.takeEntry .blockListStart .blockEntry true else otherwise
  | .scalar '?' => if standsAlone then s.takeEntry .blockMapStart .key false else otherwise
  | .scalar ':' => if standsAlone then s.takeValue else otherwise
  | .scalar '*' => s.takeKey fun r => (anchorName r).map fun (name, r) => (.alias name, r)
  | .scalar '&' => s.takeKey fun r => (anchorName r).map fun (name, r) => (.anchor name, r)
  | .scalar '!' => s.takeKey tag
  | .scalar '|' => if s.inFlow then otherwise else s.takeBlock false
  | .scalar '>' => if s.inFlow then otherwise else s.takeBlock true
  | .scalar '\'' => s.takeKey fun r => (quoted false r).map fun (t, r) => (.scalar t false, r)
  | .scalar '"' => s.takeKey fun r => (quoted true r).map fun (t, r) => (.scalar t false, r)
  | _ => otherwise

def next (s : Scan) : Except ConfigError (Scan × Bool) := do
  let s ← s.skipGap.dropStaleKeys
  let s := if s.inFlow then s else s.unwind (some s.rest.column)
  let c := s.rest.head
  if c = endMark then return (← s.leaveBlocks, true)
  else if c = .scalar '%' && s.rest.column = 0 then
    let s ← s.leaveBlocks
    let (t, r) ← directive s.rest
    return ({ s.emit t with rest := r }, false)
  else if s.isAtMark "---" then return (((← s.leaveBlocks).emit .documentStart).skip 3, false)
  else if s.isAtMark "..." then return (((← s.leaveBlocks).emit .documentEnd).skip 3, false)
  else return (← s.take c, false)

/-- How many tokens are known when the scan stops here: those before the first possible key. -/
def reach (s : Scan) : Nat :=
  let open? (k : KeyStart) : Bool := k.required || !s.isStale k
  (s.keys.filterMap fun k => (k.filter open?).map (·.number)).foldl min s.tokens.length

def run : Nat → Scan → List Token
  | 0, s => s.tokens.reverse
  | fuel + 1, s =>
    match s.next with
    | .error e => s.tokens.reverse.take s.reach ++ [.fault e]
    | .ok (s, true) => s.tokens.reverse
    | .ok (s, false) => run fuel s

end Scan

def tokens (t : Text) : List Token :=
  if t.all isAllowed then
    let s := Scan.start t
    s.run (s.rest.length + 1)
  else [.fault .malformed]

end Redraft.Yaml
