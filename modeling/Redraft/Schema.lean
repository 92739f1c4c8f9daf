import Redraft.Data
import Redraft.Text.Digit
import Redraft.Text.Keyed
import Redraft.Text.Utf8

/-!
Reading typed values out of decoded documents. A value is taken where it can be understood as the
wanted type, and every part that cannot is reported with its place, in the order of the fields.
-/
namespace Redraft

/-- A step from a document to one of its parts. -/
inductive Step where
  | key (name : Text)
  | index (n : Int)
  deriving DecidableEq

/-- Why a part is not of the wanted type. -/
inductive Problem where
  | missing
  | notText
  | notUnicode
  | notInteger
  | unreadableInteger
  | fractionalInteger
  | notFinite
  | oversizeInteger
  | tooSmall (least : Nat)
  | notBool
  | unreadableBool
  | notList
  | notMap
  | notRecord (name : String)
  | notChoice (choices : List Text)
  | notPath
  | refused (reason : Text)
  deriving DecidableEq

namespace Problem

def listChoices : List Text → Text
  | [] => []
  | [c] => Text.quoted c
  | [c, d] => Text.quoted c ++ Text.ofString " or " ++ Text.quoted d
  | c :: rest => Text.quoted c ++ Text.ofString ", " ++ listChoices rest

def kind : Problem → String
  | missing => "missing"
  | notText => "string_type"
  | notUnicode => "string_unicode"
  | notInteger => "int_type"
  | unreadableInteger => "int_parsing"
  | fractionalInteger => "int_from_float"
  | notFinite => "finite_number"
  | oversizeInteger => "int_parsing_size"
  | tooSmall _ => "greater_than_equal"
  | notBool => "bool_type"
  | unreadableBool => "bool_parsing"
  | notList => "list_type"
  | notMap => "dict_type"
  | notRecord _ => "model_type"
  | notChoice _ => "enum"
  | notPath => "path_type"
  | refused _ => "value_error"

def message : Problem → Text
  | missing => "Field required"
  | notText => "Input should be a valid string"
  | notUnicode => "Input should be a valid string, unable to parse raw data as a unicode string"
  | notInteger => "Input should be a valid integer"
  | unreadableInteger => "Input should be a valid integer, unable to parse string as an integer"
  | fractionalInteger => "Input should be a valid integer, got a number with a fractional part"
  | notFinite => "Input should be a finite number"
  | oversizeInteger => "Unable to parse input string as an integer, exceeded maximum size"
  | tooSmall least => Text.ofString "Input should be greater than or equal to " ++ Text.ofNat least
  | notBool => "Input should be a valid boolean"
  | unreadableBool => "Input should be a valid boolean, unable to interpret input"
  | notList => "Input should be a valid list"
  | notMap => "Input should be a valid dictionary"
  | notRecord name =>
    Text.ofString "Input should be a valid dictionary or instance of " ++ Text.ofString name
  | notChoice choices => Text.ofString "Input should be " ++ listChoices choices
  | notPath => "Input is not a valid path for <class 'pathlib.Path'>"
  | refused reason => Text.ofString "Value error, " ++ reason

end Problem

structure Issue where
  place : List Step
  problem : Problem
  deriving DecidableEq

abbrev Checked (α : Type) := Except (List Issue) α

namespace Checked

def fail {α : Type} (p : Problem) : Checked α := .error [⟨[], p⟩]

/-- Applies a function when both it and its argument are there; otherwise keeps all issues. -/
def and {α β : Type} (f : Checked (α → β)) (x : Checked α) : Checked β :=
  match f, x with
  | .ok f, .ok a => .ok (f a)
  | .ok _, .error issues => .error issues
  | .error issues, .ok _ => .error issues
  | .error first, .error second => .error (first ++ second)

def under {α : Type} (step : Step) (x : Checked α) : Checked α :=
  x.mapError fun issues => issues.map fun i => ⟨step :: i.place, i.problem⟩

def all {α : Type} : List (Checked α) → Checked (List α)
  | [] => .ok []
  | x :: rest => and (x.map fun a as => a :: as) (all rest)

def ensure {α : Type} (ok : α → Bool) (p : α → Problem) (x : Checked α) : Checked α :=
  match x with
  | .ok a => if ok a then .ok a else fail (p a)
  | .error issues => .error issues

end Checked

namespace Schema

open Checked

/-- The text of a text or a run of bytes that has to be Unicode; bytes that are none are a problem of
the caller's. -/
def unicode? (onBytes : Problem) : Data → Option (Checked Text)
  | .text t => some (if t.any Utf8.isSurrogate then fail .notUnicode else .ok t)
  | .bytes b => some <| match Utf8.decode b with
    | .ok t => .ok t
    | .error _ => fail onBytes
  | _ => none

def text : Data → Checked Text
  | .text t => .ok t
  | d => (unicode? .notUnicode d).getD (fail .notText)

def zero : CodePoint := '0'
def point : CodePoint := '.'
def underscore : CodePoint := '_'
def minus : CodePoint := '-'
def plus : CodePoint := '+'

def isLeading (c : CodePoint) : Bool := c.digit?.any (0 < ·)

/-- A number without the zeros at its start and the underscores among them; the zero before a point
stays, and so does the last code point. A sign may follow the zeros. -/
def dropLeadingZeros (t : Text) : Option Text :=
  if t.head? = some zero then
    let rest := t.dropWhile fun c => c = zero || c = underscore
    match rest with
    | [] => some (t.drop (t.length - 1))
    | c :: _ =>
      if c = point then some (t.drop (t.length - rest.length - 1))
      else if isLeading c || c = minus then some rest
      else none
  else if t.head?.any isLeading then some t
  else none

def dropZeroFraction (t : Text) : Text :=
  match Text.breakOn? [point] t with
  | some (whole, fraction) =>
    if !fraction.isEmpty && fraction.all (· = zero) then whole else t
  | none => t

def dropUnderscores (t : Text) : Text :=
  if t.head? = some underscore ∨ t.getLast? = some underscore
      ∨ (Text.breakOn? [underscore, underscore] t).isSome then t
  else t.filter (· ≠ underscore)

/-- A number as it is written, without what may be left out; nothing if it cannot be one. -/
def cleanNumber? (t : Text) : Option Text := do
  let t := ((t.dropWhile Text.isMargin).reverse.dropWhile Text.isMargin).reverse
  let t ← match t with
    | c :: rest =>
      if c = minus then (dropLeadingZeros rest).map (minus :: ·)
      else if c = plus then
        dropLeadingZeros rest |>.bind fun u => if rest.head? = some minus then none else some u
      else dropLeadingZeros t
    | [] => none
  return dropUnderscores (dropZeroFraction t)

def longestInteger : Nat := 4300

/-- A whole number written in decimal, with white space around it, a sign, underscores between
digits, leading zeros and a zero fraction allowed. -/
def integerText (t : Text) : Checked Int :=
  match cleanNumber? t with
  | none => fail .unreadableInteger
  | some t =>
    let negative := t.head? = some minus
    let digits := if negative then t.drop 1 else t
    let shown := digits.takeWhile fun c => c.digit?.isSome
    if digits.head?.any isLeading && longestInteger < t.length - digits.length + shown.length then
      fail .oversizeInteger
    else if digits.head? = some zero ∧ 1 < digits.length then fail .unreadableInteger
    else match Text.digits? 10 digits with
      | none => fail .unreadableInteger
      | some n => .ok (if negative then -(n : Int) else n)

def twoPow63 : Int := 0x8000000000000000

def integerFloat (x : Float) : Checked Int :=
  if !x.isFinite then fail .notFinite
  else match (Data.float x).wholeNumber? with
    | none => fail .fractionalInteger
    | some n => if -twoPow63 < n ∧ n < twoPow63 then .ok n else fail .oversizeInteger

def integer : Data → Checked Int
  | .int n => .ok n
  | .bool b => .ok (if b then 1 else 0)
  | .float x => integerFloat x
  | d => match unicode? .unreadableInteger d with
    | some (.ok t) => integerText t
    | some (.error issues) => .error issues
    | none => fail .notInteger

def atLeast (least : Nat) (d : Data) : Checked Nat :=
  ((integer d).ensure (fun n => (least : Int) ≤ n) fun _ => .tooSmall least).map Int.toNat

def boolWords : List (Text × Bool) := [
  ("0", false), ("off", false), ("f", false), ("false", false), ("n", false), ("no", false),
  ("1", true), ("on", true), ("t", true), ("true", true), ("y", true), ("yes", true)]

def boolInteger (n : Int) : Checked Bool :=
  if n = 0 then .ok false else if n = 1 then .ok true else fail .unreadableBool

def bool : Data → Checked Bool
  | .bool b => .ok b
  | .int n => if -twoPow63 ≤ n ∧ n < twoPow63 then boolInteger n else fail .notBool
  | .float x => match integerFloat x with
    | .ok n => boolInteger n
    | .error _ => fail .notBool
  | d => match unicode? .unreadableBool d with
    | some (.ok t) =>
      match boolWords.lookup (t.map CodePoint.lowerAscii) with
      | some b => .ok b
      | none => fail .unreadableBool
    | some (.error issues) => .error issues
    | none => fail .notBool

def optional {α : Type} (read : Data → Checked α) : Data → Checked (Option α)
  | .null => .ok none
  | d => (read d).map some

def list {α : Type} (read : Data → Checked α) : Data → Checked (List α)
  | .list items => all (items.zipIdx.map fun (d, i) => (read d).under (.index i))
  | _ => fail .notList

/-- The step to the value of a key: its number if it is a word of 64 bits, otherwise a text. -/
def keyStep : Data → Step
  | .text t => .key (Utf8.readable t)
  | .int n => if -twoPow63 ≤ n ∧ n < twoPow63 then .index n else .key (Text.ofInt n)
  | .bool b => .index (if b then 1 else 0)
  | d => .key d.inspect

/-- A mapping from texts to texts; of two keys that are one text the last counts. -/
def textMap : Data → Checked (List (Text × Text))
  | .map fields =>
    (all (fields.map fun (k, v) =>
      (and (((text k).under (.key "[key]")).map Prod.mk) (text v)).under (keyStep k))).map
        Keyed.ofPairs
  | _ => fail .notMap

def choice {α : Type} (choices : List (Text × α)) (d : Data) : Checked α :=
  let refused : Problem := .notChoice (choices.map (·.1))
  match unicode? refused d with
  | some (.ok t) => (choices.lookup t).elim (fail refused) .ok
  | some (.error issues) => .error issues
  | none => fail refused

def required {α : Type} (name : Text) (read : Data → Checked α) (fields : List (Data × Data)) :
    Checked α :=
  match Data.field? name fields with
  | some d => (read d).under (.key name)
  | none => (fail .missing).under (.key name)

def defaulted {α : Type} (name : Text) (absent : α) (read : Data → Checked α)
    (fields : List (Data × Data)) : Checked α :=
  match Data.field? name fields with
  | some d => (read d).under (.key name)
  | none => .ok absent

/-- A record read from the fields of a mapping; fields that it does not name are ignored. -/
def record {α : Type} (name : String) (read : List (Data × Data) → Checked α) : Data → Checked α
  | .map fields => read fields
  | _ => fail (.notRecord name)

end Schema

end Redraft
