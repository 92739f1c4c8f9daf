import Redraft.Failure

/-!
Dates and points in time as YAML scalars write them, and the text that shows one. Two points in the
time of the world are the same if they are the same instant, however they are written.
-/
namespace Redraft.Yaml

structure Offset where
  negative : Bool
  minutes : Nat

structure Clock where
  hour : Nat
  minute : Nat
  second : Nat
  micro : Nat
  offset : Option Offset

structure Moment where
  year : Nat
  month : Nat
  day : Nat
  clock : Option Clock
  isFull : Bool

namespace Moment

def digits (least most : Nat) (t : Text) : Option (Nat × Text) :=
  let found := (t.take most).takeWhile fun c => c.digit?.isSome
  if found.length < least then none
  else (Text.digits? 10 found).map fun n => (n, t.drop found.length)

def mark (c : Char) (t : Text) : Option Text :=
  if t.head? = some (.scalar c) then some (t.drop 1) else none

def isInset (c : CodePoint) : Bool := c = .scalar ' ' || c = .scalar '\t'

def microOf (t : Text) : Nat :=
  (Text.digits? 10 (t.take 6 ++ List.replicate (6 - t.length) (.scalar '0'))).getD 0

def readOffset (t : Text) : Option (Option Offset) :=
  match t.dropWhile isInset with
  | [] => if t.isEmpty then some none else none
  | [.scalar 'Z'] => some (some ⟨false, 0⟩)
  | sign :: rest => do
    let negative ← if sign = .scalar '-' then some true else if sign = .scalar '+' then some false else none
    let (hours, rest) ← digits 1 2 rest
    let (minutes, rest) ← match mark ':' rest with
      | some rest => digits 2 2 rest
      | none => some (0, rest)
    if rest.isEmpty then some (some ⟨negative, 60 * hours + minutes⟩) else none

def readClock (t : Text) : Option Clock := do
  let (hour, t) ← digits 1 2 t
  let (minute, t) ← digits 2 2 (← mark ':' t)
  let (second, t) ← digits 2 2 (← mark ':' t)
  let isDigit (c : CodePoint) : Bool := c.digit?.isSome
  let (micro, t) := match mark '.' t with
    | some t => (microOf (t.takeWhile isDigit), t.dropWhile isDigit)
    | none => (0, t)
  return ⟨hour, minute, second, micro, ← readOffset t⟩

def read? (t : Text) : Option Moment := do
  let (year, t) ← digits 4 4 t
  let fromMonth ← mark '-' t
  let (month, t) ← digits 1 2 fromMonth
  let fromDay ← mark '-' t
  let (day, t) ← digits 1 2 fromDay
  let isFull := fromMonth.length = fromDay.length + 3 && fromDay.length = t.length + 2
  match t with
  | [] => return ⟨year, month, day, none, isFull⟩
  | c :: rest =>
    let time ← if c = .scalar 'T' ∨ c = .scalar 't' then some rest
      else if isInset c then some (rest.dropWhile isInset) else none
    return ⟨year, month, day, some (← readClock time), isFull⟩

def isLeap (year : Nat) : Bool := year % 4 = 0 && (year % 100 ≠ 0 || year % 400 = 0)

def daysIn (year month : Nat) : Nat :=
  if month = 2 then (if isLeap year then 29 else 28)
  else if month = 4 ∨ month = 6 ∨ month = 9 ∨ month = 11 then 30 else 31

def dateFault? (m : Moment) : Option Text :=
  if m.year = 0 then some "year 0 is out of range"
  else if m.month = 0 ∨ 12 < m.month then some "month must be in 1..12"
  else if m.day = 0 ∨ daysIn m.year m.month < m.day then some "day is out of range for month"
  else none

def clockFault? (c : Clock) : Option Text :=
  if 23 < c.hour then some "hour must be in 0..23"
  else if 59 < c.minute then some "minute must be in 0..59"
  else if 59 < c.second then some "second must be in 0..59"
  else none

def commas (parts : List Text) : Text := Text.join ", " parts

def showOffset (o : Offset) : Text :=
  let minutes : Int := if o.negative then -(o.minutes : Int) else o.minutes
  let days := minutes.fdiv 1440
  let seconds := minutes.fmod 1440 * 60
  let part (name : String) (n : Int) : List Text :=
    if n = 0 then [] else [Text.ofString name ++ Text.ofString "=" ++ Text.ofInt n]
  let parts := part "days" days ++ part "seconds" seconds
  Text.ofString "datetime.timedelta(" ++ commas (if parts.isEmpty then ["0"] else parts)
    ++ Text.ofString ")"

def showZone (o : Offset) : Text :=
  Text.ofString "tzinfo=datetime.timezone" ++
    if o.minutes = 0 then Text.ofString ".utc"
    else Text.ofString "(" ++ showOffset o ++ Text.ofString ")"

def offsetFault? (o : Offset) : Option Text :=
  if o.minutes < 1440 then none
  else some (Text.ofString "offset must be a timedelta strictly between -timedelta(hours=24) and "
    ++ Text.ofString "timedelta(hours=24), not " ++ showOffset o ++ Text.ofString ".")

def display (m : Moment) : Text :=
  let date := [m.year, m.month, m.day].map Text.ofNat
  match m.clock with
  | none => Text.ofString "datetime.date(" ++ commas date ++ Text.ofString ")"
  | some c =>
    let fine := if c.micro ≠ 0 then [c.second, c.micro] else if c.second ≠ 0 then [c.second] else []
    let numbers := date ++ (c.hour :: c.minute :: fine).map Text.ofNat
    Text.ofString "datetime.datetime(" ++ commas (numbers ++ (c.offset.map showZone).toList)
      ++ Text.ofString ")"

/-- What is wrong with a moment: its offset, its date or its time of day, the first of them. -/
def fault? (m : Moment) : Option Text :=
  match m.clock with
  | none => m.dateFault?
  | some c => (c.offset.bind offsetFault?).or (m.dateFault?.or (clockFault? c))

end Moment

def dropLastBreak (t : Text) : Text := if t.getLast? = some Text.newline then t.dropLast else t

def isMomentForm (t : Text) : Bool :=
  (Moment.read? t).any fun m => m.isFull || m.clock.isSome

def daysBefore (year : Nat) : Nat :=
  let past := year - 1
  365 * past + past / 4 - past / 100 + past / 400

def secondsUpTo (m : Moment) (c : Clock) : Nat :=
  let months := (List.range (m.month - 1)).map fun k => Moment.daysIn m.year (k + 1)
  let days := daysBefore m.year + months.foldl (· + ·) 0 + (m.day - 1)
  ((days * 24 + c.hour) * 60 + c.minute) * 60 + c.second

def Moment.instant? (m : Moment) : Option Int := do
  let c ← m.clock
  let o ← c.offset
  let minutes : Int := if o.negative then -(o.minutes : Int) else o.minutes
  return ((secondsUpTo m c : Int) - minutes * 60) * 1000000 + c.micro

def momentValue (t : Text) : Except ConfigError Data :=
  match Moment.read? (dropLastBreak t) with
  | none => .error .notMoment
  | some m => match m.fault? with
    | some reason => .error (.badScalar reason)
    | none => .ok (.moment m.display m.instant?)

end Redraft.Yaml
