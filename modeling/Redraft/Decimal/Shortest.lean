import Redraft.Text.Basic

/-!
Floating-point numbers as decimals. Writing gives the fewest digits that read back as the same
number, and of those the nearest; reading rounds to the nearest number.
-/
namespace Redraft.Decimal

/-- A positive finite number as `mantissa * 2 ^ exponent`, with the halves of the gaps to its two
neighbours in quarters of `2 ^ exponent`. -/
structure Binary where
  mantissa : Nat
  exponent : Int
  below : Nat
  above : Nat

def fractionSize : Nat := 0x10000000000000

def exponentSize : Nat := 0x800

def Binary.ofFloat? (x : Float) : Option Binary :=
  let bits := x.toBits.toNat
  let fraction : Nat := bits % fractionSize
  let biased : Nat := bits / fractionSize % exponentSize
  if biased = 0 then
    if fraction = 0 then none else some ⟨fraction, -1074, 2, 2⟩
  else
    some ⟨fractionSize + fraction, (biased : Int) - 1075, if fraction = 0 ∧ 1 < biased then 1 else 2, 2⟩

def whole? (x : Float) : Option Int :=
  if !x.isFinite then none
  else
    let signed (n : Nat) : Int := if x < 0.0 then -(n : Int) else n
    match Binary.ofFloat? x with
    | none => some 0
    | some b =>
      let two := Nat.pow 2 b.exponent.natAbs
      if 0 ≤ b.exponent then some (signed (b.mantissa * two))
      else if b.mantissa % two = 0 then some (signed (b.mantissa / two))
      else none

/-- A number `digits * 10 ^ (point - size)`, where `digits` has `size` digits. -/
structure Digits where
  digits : Nat
  size : Nat
  point : Int

/-- `n * 10 ^ e` as a quotient of natural numbers. -/
def shift (num den : Nat) (e : Int) : Nat × Nat :=
  if 0 ≤ e then (num * Nat.pow 10 e.toNat, den) else (num, den * Nat.pow 10 (-e).toNat)

def point (num den : Nat) : Int :=
  if den ≤ num then (Nat.toDigits 10 (num / den)).length
  else
    let zeros : Nat := ((List.range 400).find? (fun k => den ≤ num * Nat.pow 10 (k + 1))).getD 400
    0 - zeros

def nearest? (b : Binary) (size : Nat) : Option Digits :=
  let two := Nat.pow 2 b.exponent.natAbs
  let scale (quarters : Nat) : Nat × Nat :=
    if 0 ≤ b.exponent then (quarters * two, 4) else (quarters, 4 * two)
  let (num, den) := scale (4 * b.mantissa)
  let p := point num den
  let (n, d) := shift num den (size - p)
  let (low, _) := shift (scale (4 * b.mantissa - b.below)).1 den (size - p)
  let (high, _) := shift (scale (4 * b.mantissa + b.above)).1 den (size - p)
  let even := b.mantissa % 2 = 0
  let fits (k : Nat) : Bool :=
    (low < k * d ∧ k * d < high) || (even ∧ (k * d = low ∨ k * d = high))
  let k := n / d
  let nearer : Nat := if 2 * (n - k * d) < d ∨ (2 * (n - k * d) = d ∧ k % 2 = 0) then k else k + 1
  let other : Nat := if nearer = k then k + 1 else k
  ([nearer, other].find? fits).map fun k => ⟨k, size, p⟩

/-- The fewest digits that read back. -/
def shortest (b : Binary) : Digits :=
  ((List.range 17).findSome? fun i => nearest? b (i + 1)).getD ⟨0, 1, 1⟩

def trimZeros (d : Digits) : List Char × Int :=
  let all := Nat.toDigits 10 d.digits
  ((all.reverse.dropWhile (· = '0')).reverse, d.point + (all.length - d.size))

/-- Positional between a ten-thousandth and ten to the sixteenth, otherwise with an exponent of at
least two digits; a whole number keeps one zero after the point. -/
def layout (digits : List Char) (point : Int) : List Char :=
  if -4 < point ∧ point ≤ 16 then
    if point ≤ 0 then '0' :: '.' :: List.replicate (-point).toNat '0' ++ digits
    else
      let whole := digits.take point.toNat
      let rest := digits.drop point.toNat
      whole ++ List.replicate (point.toNat - whole.length) '0' ++ '.' :: (if rest.isEmpty then ['0'] else rest)
  else
    let e := point - 1
    let size := Nat.toDigits 10 e.natAbs
    let size := if size.length < 2 then '0' :: size else size
    let rest := digits.drop 1
    digits.take 1 ++ (if rest.isEmpty then [] else '.' :: rest)
      ++ 'e' :: (if e < 0 then '-' else '+') :: size

def write (x : Float) : Text :=
  if x.isNaN then "nan"
  else
    let sign : List Char := if fractionSize * exponentSize ≤ x.toBits.toNat then ['-'] else []
    let body : List Char :=
      if x.isInf then ['i', 'n', 'f']
      else match Binary.ofFloat? x with
        | none => ['0', '.', '0']
        | some b => let (digits, p) := trimZeros (shortest b); layout digits p
    (sign ++ body).map .scalar

def read (negative : Bool) (digits : Nat) (exponent : Int) : Float :=
  let size : Int := (Nat.toDigits 10 digits).length + exponent
  let x : Float :=
    if digits = 0 ∨ size < -400 then 0.0
    else if 400 < size then 1.0 / 0.0
    else Float.ofScientific digits (exponent < 0) exponent.natAbs
  if negative then -x else x

/-- Reads digits with an optional fraction and an optional exponent, both already taken apart. -/
def readParts (negative : Bool) (whole fraction : Text) (exponent : Int) : Float :=
  read negative ((Text.digits? 10 (whole ++ fraction)).getD 0) (exponent - fraction.length)

end Redraft.Decimal
