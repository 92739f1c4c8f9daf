import Redraft.Text.Basic

/-!
UTF-8 over lists of bytes. Encoding fails on a half of a surrogate pair that stands alone. Decoding
is one pass with at most one unfinished character; it fails at the first byte that no character can
contain, and the failure says which bytes are at fault.
-/
namespace Redraft

abbrev Bytes := List UInt8

namespace Utf8

/-- A run of lone surrogates that has no encoding. -/
structure Unencodable where
  first : CodePoint
  position : Nat
  length : Nat
  deriving DecidableEq

/-- The bytes of a text, with a substitute for each lone surrogate. -/
def encodeWith (substitute : Bytes) : Text → Bytes
  | [] => []
  | .scalar c :: rest => String.utf8EncodeChar c ++ encodeWith substitute rest
  | .surrogate _ :: rest => substitute ++ encodeWith substitute rest

def isSurrogate : CodePoint → Bool
  | .scalar _ => false
  | .surrogate _ => true

def unencodable? (position : Nat) : Text → Option Unencodable
  | [] => none
  | .scalar _ :: rest => unencodable? (position + 1) rest
  | .surrogate i :: rest => some ⟨.surrogate i, position, 1 + (rest.takeWhile isSurrogate).length⟩

def encode (t : Text) : Except Unencodable Bytes :=
  match unencodable? 0 t with
  | some fault => .error fault
  | none => .ok (encodeWith [] t)

/-- Why a run of bytes is not text. -/
inductive Reason where
  | badStart
  | badContinuation
  | truncated
  deriving DecidableEq

/-- The bytes at fault: their first byte, where they start and how many they are. -/
structure Fault where
  first : UInt8
  position : Nat
  length : Nat
  reason : Reason
  deriving DecidableEq

/-- A character that lacks `need` bytes, the next of them between `low` and `high`. -/
structure Pending where
  lead : UInt8
  need : Nat
  low : UInt8
  high : UInt8
  bits : Nat
  taken : Nat
  deriving DecidableEq

/-- What a byte does between characters. -/
inductive Begin where
  | char (c : CodePoint)
  | more (pending : Pending)
  | bad

def ofBits (n : Nat) : CodePoint := (CodePoint.ofNat? n).getD default

def begin (b : UInt8) : Begin :=
  let more (need : Nat) (low high : UInt8) (bits : Nat) : Begin := .more ⟨b, need, low, high, bits, 1⟩
  if b < 0x80 then .char (ofBits b.toNat)
  else if b < 0xC2 then .bad
  else if b < 0xE0 then more 1 0x80 0xBF (b.toNat - 0xC0)
  else if b == 0xE0 then more 2 0xA0 0xBF 0
  else if b == 0xED then more 2 0x80 0x9F 0xD
  else if b < 0xF0 then more 2 0x80 0xBF (b.toNat - 0xE0)
  else if b == 0xF0 then more 3 0x90 0xBF 0
  else if b < 0xF4 then more 3 0x80 0xBF (b.toNat - 0xF0)
  else if b == 0xF4 then more 3 0x80 0x8F 4
  else .bad

/-- What the next byte does to an unfinished character; nothing if it cannot belong to it. -/
def Pending.next? (p : Pending) (b : UInt8) : Option Begin :=
  if p.low ≤ b ∧ b ≤ p.high then
    let bits := p.bits * 64 + (b.toNat - 0x80)
    if p.need ≤ 1 then some (.char (ofBits bits))
    else some (.more ⟨p.lead, p.need - 1, 0x80, 0xBF, bits, p.taken + 1⟩)
  else none

/-- Decodes from byte number `index` on. A reader that takes a file in pieces of `piece` bytes counts
positions from the start of the piece, or from the start of the character that the piece before it
left unfinished. -/
def decodeFrom (piece : Option Nat) (index origin : Nat) (pending : Option Pending) :
    Bytes → Except Fault Text
  | [] =>
    match pending with
    | none => .ok []
    | some p => .error ⟨p.lead, if piece.isSome then 0 else index - p.taken - origin, p.taken, .truncated⟩
  | b :: rest =>
    let start := index - (pending.map (·.taken)).getD 0
    let origin := if piece.any fun n => 0 < index && index % n == 0 then start else origin
    match pending with
    | none =>
      match begin b with
      | .char c => return c :: (← decodeFrom piece (index + 1) origin none rest)
      | .more p => decodeFrom piece (index + 1) origin (some p) rest
      | .bad => .error ⟨b, index - origin, 1, .badStart⟩
    | some p =>
      match p.next? b with
      | some (.char c) => return c :: (← decodeFrom piece (index + 1) origin none rest)
      | some (.more p) => decodeFrom piece (index + 1) origin (some p) rest
      | _ => .error ⟨p.lead, start - origin, p.taken, .badContinuation⟩

def decode (bytes : Bytes) : Except Fault Text := decodeFrom none 0 0 none bytes

/-- The text of a sequence of bytes read in pieces of a given size. -/
def decodePieces (piece : Nat) (bytes : Bytes) : Except Fault Text :=
  decodeFrom (some piece) 0 0 none bytes

def replacement : CodePoint := Char.ofNat 0xFFFD

/-- A text without lone surrogates: each of the three bytes that one would take is no text. -/
def readable (t : Text) : Text :=
  t.flatMap fun c => if isSurrogate c then [replacement, replacement, replacement] else [c]

/-- Decodes with one replacement mark for each run of bytes at fault. -/
def decodeLossyFrom (pending : Option Pending) : Bytes → Text
  | [] => if pending.isSome then [replacement] else []
  | b :: rest =>
    let restart (before : Text) : Text :=
      match begin b with
      | .char c => before ++ c :: decodeLossyFrom none rest
      | .more p => before ++ decodeLossyFrom (some p) rest
      | .bad => before ++ replacement :: decodeLossyFrom none rest
    match pending with
    | none => restart []
    | some p =>
      match p.next? b with
      | some (.char c) => c :: decodeLossyFrom none rest
      | some (.more p) => decodeLossyFrom (some p) rest
      | _ => restart [replacement]

def decodeLossy (bytes : Bytes) : Text := decodeLossyFrom none bytes

end Utf8

end Redraft
