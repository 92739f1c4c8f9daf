import Redraft.Text.Basic

/-!
YAML texts with the place of each code point. Every line end but the two separators is a newline
here, and a code point that no text holds stands at the end.
-/
namespace Redraft.Yaml

/-- A code point and where it stands. -/
structure Spot where
  char : CodePoint
  index : Nat
  line : Nat
  column : Nat

abbrev Stream := List Spot

def endMark : CodePoint := Char.ofNat 0
def byteOrderMark : CodePoint := Char.ofNat 0xFEFF
def nextLine : CodePoint := Char.ofNat 0x85
def carriageReturn : CodePoint := '\r'
def lineSeparator : CodePoint := Char.ofNat 0x2028
def paragraphSeparator : CodePoint := Char.ofNat 0x2029
def space : CodePoint := ' '
def tab : CodePoint := '\t'

def isBreak (c : CodePoint) : Bool :=
  c = Text.newline || c = lineSeparator || c = paragraphSeparator

def isLineEnd (c : CodePoint) : Bool := isBreak c || c = endMark

def isGap (c : CodePoint) : Bool := c = space || c = tab || isLineEnd c

def isInset (c : CodePoint) : Bool := c = space || c = tab

def isAllowed (c : CodePoint) : Bool :=
  let n := c.value
  n = 9 || n = 10 || n = 13 || (0x20 ≤ n && n ≤ 0x7E) || n = 0x85 || (0xA0 ≤ n && n ≤ 0xD7FF)
    || (0xE000 ≤ n && n ≤ 0xFFFD) || 0x10000 ≤ n

def unifyBreaks : Text → Text
  | [] => []
  | .scalar '\r' :: .scalar '\n' :: rest => Text.newline :: unifyBreaks rest
  | c :: rest => (if c = carriageReturn ∨ c = nextLine then Text.newline else c) :: unifyBreaks rest

/-- The code points of a text from a place on. A byte order mark takes no column. -/
def locate (index line column : Nat) : Text → Stream
  | [] => [⟨endMark, index, line, column⟩]
  | c :: rest =>
    ⟨c, index, line, column⟩ ::
      (if isBreak c then locate (index + 1) (line + 1) 0 rest
       else locate (index + 1) line (if c = byteOrderMark then column else column + 1) rest)

def Stream.ofText (t : Text) : Stream := locate 0 0 0 (unifyBreaks t)

namespace Stream

def toText (s : Stream) : Text := s.map (·.char)

def peek (s : Stream) (k : Nat) : CodePoint := ((s[k]?).map (·.char)).getD endMark

def head (s : Stream) : CodePoint := s.peek 0

def column (s : Stream) : Nat := ((s.head?).map (·.column)).getD 0

def takeWhile (ok : CodePoint → Bool) (s : Stream) : Text := s.toText.takeWhile ok

def dropWhile (ok : CodePoint → Bool) (s : Stream) : Stream := List.dropWhile (fun x => ok x.char) s

def skipSpaces (s : Stream) : Stream := s.dropWhile (· = space)

def skipComment? (s : Stream) : Option Stream :=
  let s := s.skipSpaces
  let s := if s.head = .scalar '#' then s.dropWhile (fun c => !isLineEnd c) else s
  if isBreak s.head then some (s.drop 1) else if s.head = endMark then some s else none

def isAtMark (mark : Text) (s : Stream) : Bool :=
  mark.isPrefixOf s.toText && isGap (s.peek mark.length)

def isAtSeparator (s : Stream) : Bool := s.isAtMark "---" || s.isAtMark "..."

end Stream

end Redraft.Yaml
