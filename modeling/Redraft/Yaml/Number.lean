import Redraft.Json.Decode
import Redraft.Failure
import Redraft.Text.Digit
import Redraft.Text.Lower

/-!
Numbers as YAML scalars write them: whole numbers in five bases, the base of sixty with its places
between colons, and floating-point numbers.
-/
namespace Redraft.Yaml

def isDigit (c : CodePoint) : Bool := c.digit?.isSome

def underscore : CodePoint := '_'

def colon : CodePoint := ':'

def isDigitOrBar (c : CodePoint) : Bool := isDigit c || c = underscore

def isSign (c : CodePoint) : Bool := c = .scalar '+' || c = .scalar '-'

def dropSign (t : Text) : Text := if t.head?.any isSign then t.drop 1 else t

def isSixtieth (t : Text) : Bool :=
  match t with
  | [a] => isDigit a
  | [a, b] => isDigit b && a.digit?.any (· < 6)
  | _ => false

def isBarred (t : Text) : Bool := t.head?.any isDigit && t.all isDigitOrBar

def startsNonzero (t : Text) : Bool := t.head?.any fun c => c.digit?.any (0 < ·)

def isMarked (mark : Text) (isPlace : CodePoint → Bool) (t : Text) : Bool :=
  match Text.dropStart? mark t with
  | some rest => !rest.isEmpty && rest.all fun c => isPlace c || c = underscore
  | none => false

def isIntegerForm (t : Text) : Bool :=
  let t := dropSign t
  let below (base : Nat) (c : CodePoint) : Bool := c.hexDigit?.any (· < base)
  isMarked "0b" (below 2) t || isMarked "0x" (below 16) t || isMarked "0" (below 8) t
    || t = Text.ofString "0"
    || match Text.split colon t with
      | [] => false
      | first :: rest => startsNonzero first && isBarred first && rest.all isSixtieth

def isExponentForm (t : Text) : Bool :=
  match t with
  | [] => true
  | e :: sign :: digits =>
    (e = .scalar 'e' || e = .scalar 'E') && isSign sign && !digits.isEmpty && digits.all isDigit
  | _ => false

def isFloatForm (t : Text) : Bool :=
  let u := dropSign t
  let special (words : List Text) (t : Text) : Bool := words.contains t
  special [".inf", ".Inf", ".INF"] u || special [".nan", ".NaN", ".NAN"] t
    || match Text.breakOn? "." u with
      | none => false
      | some (whole, rest) =>
        let fraction := rest.takeWhile isDigitOrBar
        let tail := rest.drop fraction.length
        match Text.split colon whole with
        | [] => false
        | [first] => isExponentForm tail
          && (if first.isEmpty then u = t && fraction.head?.any isDigit else isBarred first)
        | first :: sixtieths => tail.isEmpty && isBarred first && sixtieths.all isSixtieth

def digitsIn (base : Nat) (t : Text) : Text :=
  let t := dropSign t
  let marks : List (Nat × Char) := [(16, 'x'), (8, 'o'), (2, 'b')]
  match t with
  | .scalar '0' :: .scalar m :: rest =>
    if marks.any fun (b, c) => b = base && c = m.toLower then rest else t
  | _ => t

def readInteger (base : Nat) (t : Text) : Except ConfigError Int :=
  let shown := Text.asciiNumber t
  let digits := digitsIn base shown
  let size := (digits.takeWhile isDigit).length
  if base = 10 ∧ Json.longestInteger < size then
    .error (.badScalar ((Json.Failure.longInteger size).message []))
  else match Text.digits? base digits with
    | none => .error (.badScalar (Text.ofString "invalid literal for int() with base "
        ++ Text.ofNat base ++ Text.ofString ": " ++ Text.quoted t))
    | some n => .ok (if shown.head? = some (.scalar '-') then -(n : Int) else n)

/-- A number between signs and bars: whether it is negative, and the rest in which it is written. -/
def unsigned (t : Text) : Except ConfigError (Bool × Text) :=
  match t.filter (· ≠ underscore) with
  | [] => .error .emptyNumber
  | c :: rest => .ok (c = .scalar '-', if isSign c then rest else c :: rest)

def integerValue (t : Text) : Except ConfigError Int := do
  let (negative, t) ← unsigned t
  let n ← match Text.dropStart? "0b" t, Text.dropStart? "0x" t with
    | some digits, _ => readInteger 2 digits
    | none, some digits => readInteger 16 digits
    | none, none =>
      if t = Text.ofString "0" then pure 0
      else if t.isEmpty then throw .emptyNumber
      else if t.head? = some (.scalar '0') then readInteger 8 t
      else
        let places ← (Text.split colon t).mapM (readInteger 10)
        pure (places.foldl (fun n place => n * 60 + place) 0)
  return if negative then -n else n

def floatLiteral? (t : Text) : Option Float :=
  let t := Text.asciiNumber t
  let negative := t.head? = some (.scalar '-')
  let body := (dropSign t).map CodePoint.lowerAscii
  let signed (x : Float) : Float := if negative then -x else x
  if body = Text.ofString "inf" ∨ body = Text.ofString "infinity" then some (signed (1.0 / 0.0))
  else if body = Text.ofString "nan" then some (0.0 / 0.0)
  else
    let whole := body.takeWhile isDigit
    let rest := body.drop whole.length
    let (fraction, rest) := match rest with
      | .scalar '.' :: r => (r.takeWhile isDigit, r.dropWhile isDigit)
      | r => ([], r)
    let exponent? : Option Int := match rest with
      | [] => some 0
      | .scalar 'e' :: r =>
        (Text.digits? 10 (dropSign r)).map fun n =>
          if r.head? = some (.scalar '-') then -(n : Int) else n
      | _ => none
    if whole.isEmpty && fraction.isEmpty then none
    else exponent?.map fun e => Decimal.readParts negative whole fraction e

def readFloat (t : Text) : Except ConfigError Float :=
  match floatLiteral? t with
  | some x => .ok x
  | none => .error (.badScalar (Text.ofString "could not convert string to float: " ++ Text.quoted t))

/-- What a place is worth in the base of sixty; too large a power has no floating-point number. -/
def weigh (x : Float) (place : Nat) : Except ConfigError Float :=
  let base := Float.ofNat (Nat.pow 60 place)
  if base.isFinite then .ok (x * base) else .error .hugeNumber

def floatValue (t : Text) : Except ConfigError Float := do
  let (negative, t) ← unsigned (Text.lower (t.filter (· ≠ underscore)))
  let x ←
    if t = Text.ofString ".inf" then pure (1.0 / 0.0)
    else if t = Text.ofString ".nan" then return 0.0 / 0.0
    else if t.contains colon then do
      let places ← (Text.split colon t).mapM readFloat
      let weighted ← places.reverse.zipIdx.mapM fun (x, i) => weigh x i
      pure (weighted.foldl (· + ·) 0.0)
    else readFloat t
  return if negative then -x else x

end Redraft.Yaml
