import Redraft.Decimal.Shortest
import Redraft.Shell.Sum

/-!
What `echo` and `printf` print: texts with escapes, and formats with directives for their arguments.
-/
namespace Redraft.Shell

def byte (n : Nat) : CodePoint := .scalar (Char.ofNat (n % 256))

def byteEscapes : List (Char × Nat) := [
  ('\\', 0x5C), ('a', 7), ('b', 8), ('e', 0x1B), ('f', 12), ('n', 10), ('r', 13), ('t', 9), ('v', 11)]

def isOctalDigit (c : CodePoint) : Bool := c.digit?.any (· < 8)

def octal? (t : Text) : Option (CodePoint × Text) :=
  let digits := (t.take 3).takeWhile isOctalDigit
  (Text.digits? 8 digits).map fun n => (byte n, t.drop digits.length)

/-- The byte of an escape behind its backslash. In a text a zero may stand before the octal digits. -/
def escape? (inFormat : Bool) (t : Text) : Option (CodePoint × Text) :=
  match t with
  | .scalar d :: after =>
    match byteEscapes.lookup d with
    | some n => some (byte n, after)
    | none =>
      if !inFormat && d = '0' then (octal? after).or (some (byte 0, after)) else octal? t
  | _ => none

def unescape : Nat → Text → Text × Bool
  | 0, t => (t, false)
  | _ + 1, [] => ([], false)
  | fuel + 1, c :: rest =>
    let more (c : CodePoint) (rest : Text) : Text × Bool :=
      let (back, ended) := unescape fuel rest
      (c :: back, ended)
    if c ≠ .scalar '\\' then more c rest
    else if rest.head? = some (.scalar 'c') then ([], true)
    else match escape? false rest with
      | some (b, after) => more b after
      | none => more c rest

def echoed (args : List Text) : Text :=
  let (quiet, args) := match args with
    | first :: rest => if first = Text.ofString "-n" then (true, rest) else (false, args)
    | [] => (false, [])
  let t := Text.join " " args
  let (t, ended) := unescape t.length t
  t ++ if quiet || ended then [] else [Text.newline]

/-- A directive of a format: how to pad, and the letter that says what to print. -/
structure Directive where
  flags : Text
  width : Nat
  precision : Option Nat
  letter : Char

/-- What a format prints, what it complains of, and whether it goes on. -/
structure Printed where
  out : Text
  complaints : List Text
  args : List Text
  asked : Bool
  ended : Bool
  fatal : Option Text

namespace Directive

def has (c : Char) (d : Directive) : Bool := d.flags.contains (.scalar c)

def pad (zeros : Bool) (sign body : Text) (d : Directive) : Text :=
  let missing := d.width - (sign.length + body.length)
  if d.has '-' then sign ++ body ++ List.replicate missing (.scalar ' ')
  else if zeros then sign ++ List.replicate missing (.scalar '0') ++ body
  else List.replicate missing (.scalar ' ') ++ sign ++ body

def signOf (negative : Bool) (d : Directive) : Text :=
  if negative then "-" else if d.has '+' then "+" else if d.has ' ' then " " else []

def digits (base n : Nat) (d : Directive) : Text :=
  let t : Text := if n = 0 ∧ d.precision = some 0 then [] else (Nat.toDigits base n).map .scalar
  List.replicate (d.precision.getD 1 - t.length) (.scalar '0') ++ t

def upper (t : Text) : Text := t.map fun
  | .scalar c => .scalar c.toUpper
  | c => c

def whole (n : Int) (d : Directive) : Text :=
  let zeros := d.has '0' && d.precision.isNone
  let word : Nat := (n % 0x10000000000000000).toNat
  match d.letter with
  | 'u' => d.pad zeros [] (d.digits 10 word)
  | 'o' =>
    let t := d.digits 8 word
    d.pad zeros [] (if d.has '#' ∧ t.head? ≠ some (.scalar '0') then .scalar '0' :: t else t)
  | 'x' => d.pad zeros (if d.has '#' ∧ word ≠ 0 then "0x" else []) (d.digits 16 word)
  | 'X' => d.pad zeros (if d.has '#' ∧ word ≠ 0 then "0X" else []) (upper (d.digits 16 word))
  | _ => d.pad zeros (d.signOf (n < 0)) (d.digits 10 n.natAbs)

def roundDiv (num den : Nat) : Nat :=
  let q := num / den
  let r := num % den
  if 2 * r < den ∨ (2 * r = den ∧ q % 2 = 0) then q else q + 1

def quotient (x : Float) : Nat × Nat :=
  match Decimal.Binary.ofFloat? x with
  | none => (0, 1)
  | some b =>
    let two := Nat.pow 2 b.exponent.natAbs
    if 0 ≤ b.exponent then (b.mantissa * two, 1) else (b.mantissa, two)

def fixed (places : Nat) (num den : Nat) : Text :=
  let n := roundDiv (num * Nat.pow 10 places) den
  let t : Text := (Nat.toDigits 10 n).map .scalar
  let t := List.replicate (places + 1 - t.length) (.scalar '0') ++ t
  t.take (t.length - places) ++ if places = 0 then [] else .scalar '.' :: t.drop (t.length - places)

def scientific (places : Nat) (num den : Nat) : Text × Int :=
  if num = 0 then (fixed places 0 1, 0)
  else
    let e := Decimal.point num den - 1
    let scaled (e : Int) : Nat :=
      let (n, m) := Decimal.shift num den (places - e)
      roundDiv n m
    let e := if Nat.pow 10 (places + 1) ≤ scaled e then e + 1 else e
    (fixed places (scaled e) (Nat.pow 10 places), e)

def exponentText (e : Int) : Text :=
  let t := Text.ofNat e.natAbs
  .scalar 'e' :: .scalar (if e < 0 then '-' else '+')
    :: (List.replicate (2 - t.length) (.scalar '0') ++ t)

def withoutZeros (t : Text) : Text :=
  if t.contains (.scalar '.') then
    let t := (t.reverse.dropWhile (· = .scalar '0')).reverse
    if t.getLast? = some (.scalar '.') then t.dropLast else t
  else t

def real (x : Float) (d : Directive) : Text :=
  let negative := Nat.pow 2 63 ≤ x.toBits.toNat
  let (num, den) := quotient x
  let places := d.precision.getD 6
  let body : Text :=
    if x.isNaN then "nan"
    else if x.isInf then "inf"
    else match d.letter.toLower with
      | 'f' => fixed places num den
      | 'e' => let (t, e) := scientific places num den; t ++ exponentText e
      | _ =>
        let digits := if places = 0 then 1 else places
        let (t, e) := scientific (digits - 1) num den
        let short (t : Text) : Text := if d.has '#' then t else withoutZeros t
        if e < -4 ∨ (digits : Int) ≤ e then short t ++ exponentText e
        else short (fixed ((digits : Int) - 1 - e).toNat num den)
  d.pad (d.has '0' && x.isFinite) (d.signOf negative) (if d.letter.isUpper then upper body else body)

end Directive

def isFlag (c : CodePoint) : Bool :=
  [CodePoint.scalar '#', .scalar '-', .scalar '+', .scalar ' ', .scalar '0'].contains c

def quoteMarks : Text := "\"'"

/-- The whole number that an argument of a format stands for, and what is to be said of it. -/
def wholeArgument (arg : Text) : Int × List Text :=
  match arg with
  | [] => (0, [])
  | c :: rest =>
    if quoteMarks.contains c then ((rest.head?.map (·.value)).getD 0, [])
    else
      let t := arg.dropWhile isSpace
      let (negative, u) : Bool × Text := match t with
        | .scalar '-' :: r => (true, r)
        | .scalar '+' :: r => (false, r)
        | r => (false, r)
      let (base, digits, after) := leadingNumber u
      let n : Int := (Text.digits? base digits).getD 0
      let n := if negative then -n else n
      if digits.isEmpty then (0, [arg ++ Text.ofString ": expected numeric value"])
      else
        let held := if n < leastInt then leastInt else if greatestInt < n then greatestInt else n
        let complaints :=
          if !after.isEmpty then [arg ++ Text.ofString ": not completely converted"]
          else if held ≠ n then [arg ++ Text.ofString ": Numerical result out of range"]
          else []
        (held, complaints)

def realArgument (arg : Text) : Float × List Text :=
  match arg with
  | [] => (0.0, [])
  | c :: rest =>
    if quoteMarks.contains c then (Float.ofNat ((rest.head?.map (·.value)).getD 0), [])
    else
      let t := arg.dropWhile isSpace
      let (negative, u) : Bool × Text := match t with
        | .scalar '-' :: r => (true, r)
        | .scalar '+' :: r => (false, r)
        | r => (false, r)
      let whole := u.takeWhile isDigit
      let u := u.drop whole.length
      let (fraction, u) : Text × Text := match u with
        | .scalar '.' :: r => (r.takeWhile isDigit, r.dropWhile isDigit)
        | r => ([], r)
      let (exponent, after) : Int × Text := match u with
        | .scalar e :: r =>
          let (sign, digits) : Int × Text := match r with
            | .scalar '-' :: r => (-1, r)
            | .scalar '+' :: r => (1, r)
            | r => (1, r)
          match e.toLower, Text.digits? 10 (digits.takeWhile isDigit) with
          | 'e', some n => (sign * n, digits.dropWhile isDigit)
          | _, _ => (0, u)
        | r => (0, r)
      if (whole ++ fraction).isEmpty then (0.0, [arg ++ Text.ofString ": expected numeric value"])
      else (Decimal.readParts negative whole fraction exponent,
        if after.isEmpty then [] else [arg ++ Text.ofString ": not completely converted"])

def countOf (t : Text) (args : List Text) : Option Int × Text × List Text × List Text :=
  match t with
  | .scalar '*' :: rest =>
    let (n, complaints) := wholeArgument (args.head?.getD [])
    (some n, rest, args.drop 1, complaints)
  | _ =>
    let digits := t.takeWhile isDigit
    ((Text.digits? 10 digits).map fun n => n, t.drop digits.length, args, [])

def Directive.print (d : Directive) (p : Printed) : Printed :=
  let arg := p.args.head?.getD []
  let p := { p with args := p.args.drop 1, asked := true }
  let cut (t : Text) : Text := match d.precision with
    | some n => t.take n
    | none => t
  let with_ (t : Text) (complaints : List Text) : Printed :=
    { p with out := p.out ++ t, complaints := p.complaints ++ complaints }
  if ['d', 'i', 'o', 'u', 'x', 'X'].contains d.letter then
    let (n, complaints) := wholeArgument arg
    with_ (d.whole n) complaints
  else if ['e', 'E', 'f', 'F', 'g', 'G'].contains d.letter then
    let (x, complaints) := realArgument arg
    with_ (d.real x) complaints
  else if d.letter = 's' then with_ (d.pad false [] (cut arg)) []
  else if d.letter = 'c' then with_ (d.pad false [] [arg.head?.getD (byte 0)]) []
  else if d.letter = 'b' then
    let (t, ended) := unescape arg.length arg
    { with_ (d.pad false [] (cut t)) [] with ended := ended }
  else p

def printLetters : List Char :=
  ['d', 'i', 'o', 'u', 'x', 'X', 'e', 'E', 'f', 'F', 'g', 'G', 's', 'c', 'b']

def printDirective (t : Text) (p : Printed) : Printed × Text :=
  let flags := t.takeWhile isFlag
  let (width, afterWidth, args, c₁) := countOf (t.drop flags.length) p.args
  let (precision, rest, args, c₂) : Option Int × Text × List Text × List Text :=
    match afterWidth with
    | .scalar '.' :: r =>
      let (n, rest, args, c) := countOf r args
      (some (n.getD 0), rest, args, c)
    | r => (none, r, args, [])
  let starred := args.length < p.args.length
  let p := { p with args := args, complaints := p.complaints ++ c₁ ++ c₂, asked := p.asked || starred }
  match rest with
  | .scalar letter :: after =>
    if printLetters.contains letter then
      let w := width.getD 0
      let flags := if w < 0 then .scalar '-' :: flags else flags
      let precision := (precision.filter (0 ≤ ·)).map (·.toNat)
      (Directive.print ⟨flags, w.natAbs, precision, letter⟩ p, after)
    else
      let shown := t.take (t.length - after.length)
      ({ p with fatal := some (.scalar '%' :: shown ++ Text.ofString ": invalid directive") }, after)
  | _ => ({ p with fatal := some "missing format character" }, [])

def formatOnce : Nat → Text → Printed → Printed
  | 0, _, p => p
  | _ + 1, [], p => p
  | fuel + 1, c :: rest, p =>
    let add (c : CodePoint) (rest : Text) : Printed :=
      formatOnce fuel rest { p with out := p.out ++ [c] }
    if c = .scalar '%' then
      match rest with
      | .scalar '%' :: rest => add c rest
      | _ =>
        let (p, rest) := printDirective rest p
        if p.ended || p.fatal.isSome then p else formatOnce fuel rest p
    else if c = .scalar '\\' then
      match escape? true rest with
      | some (b, after) => add b after
      | none => add c rest
    else add c rest

def formatAll (format : Text) : Nat → Printed → Printed
  | 0, p => p
  | fuel + 1, p =>
    let p := formatOnce (format.length + 1) format { p with asked := false }
    if p.asked && !p.args.isEmpty && !p.ended && p.fatal.isNone then formatAll format fuel p else p

def formatted (format : Text) (args : List Text) : Printed :=
  formatAll format (args.length + 1) ⟨[], [], args, false, false, none⟩

end Redraft.Shell
