import Redraft.Text.Name
import Redraft.Text.Quoted

/-!
Escapes in a text between quotes, and the code points that they stand for. A backslash before a line
end takes it away, before a character beyond ASCII it shows that character by its number, and before
anything else it stands for itself.
-/
namespace Redraft.Text

/-- Why an escape stands for nothing. -/
inductive EscapeFault where
  | lonely
  | short (letter : Char) (width : Nat)
  | tooLarge
  | malformedName
  | unknownName

def EscapeFault.message : EscapeFault → Text
  | lonely => "\\ at end of string"
  | short letter width =>
    let mark : Text := [.scalar '\\', .scalar letter]
    ofString "truncated " ++ mark ++ List.replicate width (.scalar 'X') ++ ofString " escape"
  | tooLarge => "illegal Unicode character"
  | malformedName => "malformed \\N character escape"
  | unknownName => "unknown Unicode character name"

def letterEscapes : List (Char × Nat) := [
  ('\\', 0x5C), ('\'', 0x27), ('"', 0x22), ('a', 7), ('b', 8), ('t', 9), ('n', 0xA), ('v', 0xB),
  ('f', 0xC), ('r', 0xD)]

def numberWidths : List (Char × Nat) := [('x', 2), ('u', 4), ('U', 8)]

def isOctal (c : CodePoint) : Bool := c.digit?.any (· < 8)

def namedEscape (t : Text) : Except EscapeFault (Text × Text) :=
  match t with
  | .scalar '\x7b' :: t =>
    match breakOn? "\x7d" t with
    | some (name, rest) =>
      if name.isEmpty then .error .malformedName
      else match CodePoint.ofName? name with
        | some c => .ok ([c], rest)
        | none => .error .unknownName
    | none => .error .malformedName
  | _ => .error .malformedName

/-- What an escape stands for, and the text after it: `c` and `rest` are behind its backslash. -/
def escapeValue (c : CodePoint) (rest : Text) : Except EscapeFault (Text × Text) :=
  match c with
  | .surrogate _ => .ok (numberEscape c, rest)
  | .scalar letter =>
    match letterEscapes.lookup letter, numberWidths.lookup letter with
    | some n, _ => .ok ((CodePoint.ofNat? n).toList, rest)
    | none, some width =>
      match digits? 16 (rest.take width) with
      | some n =>
        if rest.length < width then .error (.short letter width)
        else match CodePoint.ofNat? n with
          | some c => .ok ([c], rest.drop width)
          | none => .error .tooLarge
      | none => .error (.short letter width)
    | none, none =>
      if c = newline then .ok ([], rest)
      else if letter = 'N' then namedEscape rest
      else if isOctal c then
        let digits := ((c :: rest).take 3).takeWhile isOctal
        .ok (((digits? 8 digits).bind CodePoint.ofNat?).toList, (c :: rest).drop digits.length)
      else if letter.toNat < 0x80 then .ok ([.scalar '\\', c], rest)
      else .ok (numberEscape c, rest)

def unescapeFrom : Nat → Text → Except EscapeFault Text
  | 0, _ => .ok []
  | fuel + 1, t =>
    match t with
    | [] => .ok []
    | c :: rest =>
      if c = .scalar '\\' then
        match rest with
        | [] => .error .lonely
        | d :: rest => do
          let (value, rest) ← escapeValue d rest
          return value ++ (← unescapeFrom fuel rest)
      else (unescapeFrom fuel rest).map (c :: ·)

def unescape (t : Text) : Except EscapeFault Text := unescapeFrom t.length t

end Redraft.Text
