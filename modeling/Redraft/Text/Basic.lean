/-!
Text as a list of code points. A code point is a character or a half of a surrogate pair that
stands alone: decoded payloads may carry such halves, and they are kept until something has to be
encoded.
-/
namespace Redraft

/-- A character, or half of a surrogate pair standing alone. -/
inductive CodePoint where
  | scalar (c : Char)
  | surrogate (offset : Fin 0x800)
  deriving DecidableEq, Inhabited

namespace CodePoint

def value : CodePoint → Nat
  | scalar c => c.toNat
  | surrogate i => 0xD800 + i.val

def ofNat? (n : Nat) : Option CodePoint :=
  if h : n.isValidChar then some (scalar (Char.ofNatAux n h))
  else if h : 0xD800 ≤ n ∧ n < 0xE000 then some (surrogate ⟨n - 0xD800, by omega⟩)
  else none

instance : Coe Char CodePoint := ⟨scalar⟩

def isIn (ranges : List (Nat × Nat)) (c : CodePoint) : Bool :=
  ranges.any fun (first, last) => first ≤ c.value && c.value ≤ last

def digit? : CodePoint → Option Nat
  | scalar c => if '0' ≤ c ∧ c ≤ '9' then some (c.toNat - '0'.toNat) else none
  | surrogate _ => none

def hexDigit? : CodePoint → Option Nat
  | scalar c =>
    if '0' ≤ c ∧ c ≤ '9' then some (c.toNat - '0'.toNat)
    else if 'a' ≤ c ∧ c ≤ 'f' then some (c.toNat - 'a'.toNat + 10)
    else if 'A' ≤ c ∧ c ≤ 'F' then some (c.toNat - 'A'.toNat + 10)
    else none
  | surrogate _ => none

def lowerAscii : CodePoint → CodePoint
  | scalar c => scalar c.toLower
  | surrogate i => surrogate i

end CodePoint

abbrev Text := List CodePoint

namespace Text

def ofString (s : String) : Text := s.toList.map .scalar

instance : Coe String Text := ⟨ofString⟩

/-- Adjacent halves of a pair, read as the character they encode. -/
def pair? : CodePoint → CodePoint → Option CodePoint
  | .surrogate hi, .surrogate lo =>
    if hi.val < 0x400 ∧ 0x400 ≤ lo.val then
      CodePoint.ofNat? (0x10000 + hi.val * 0x400 + (lo.val - 0x400))
    else none
  | _, _ => none

/-- Text order: by code point, a proper beginning first. -/
def le : Text → Text → Bool
  | [], _ => true
  | _ :: _, [] => false
  | a :: s, b :: t => a.value < b.value || (a = b && le s t)

def split (sep : CodePoint) : Text → List Text
  | [] => [[]]
  | c :: rest =>
    if c = sep then [] :: split sep rest
    else match split sep rest with
      | [] => [[c]]
      | part :: parts => (c :: part) :: parts

def join (sep : Text) : List Text → Text
  | [] => []
  | [part] => part
  | part :: parts => part ++ sep ++ join sep parts

def newline : CodePoint := '\n'

def lines (t : Text) : List Text := split newline t

def breakOn? (mark : Text) : Text → Option (Text × Text)
  | [] => if mark.isEmpty then some ([], []) else none
  | c :: rest =>
    if mark.isPrefixOf (c :: rest) then some ([], (c :: rest).drop mark.length)
    else (breakOn? mark rest).map fun (before, after) => (c :: before, after)

def dropStart? (mark t : Text) : Option Text :=
  if mark.isPrefixOf t then some (t.drop mark.length) else none

def ofNat (n : Nat) : Text := (Nat.toDigits 10 n).map .scalar

def ofInt : Int → Text
  | .ofNat n => ofNat n
  | .negSucc n => .scalar '-' :: ofNat (n + 1)

def hex (width n : Nat) : Text :=
  let digits := (Nat.toDigits 16 n).map CodePoint.scalar
  List.replicate (width - digits.length) (.scalar '0') ++ digits

def digits? (base : Nat) (t : Text) : Option Nat :=
  if t.isEmpty then none
  else t.foldl (fun acc c => do
    let n ← acc
    let d ← c.hexDigit?
    if d < base then some (n * base + d) else none) (some 0)

@[simp]
theorem split_ne_nil (sep : CodePoint) (t : Text) : split sep t ≠ [] := by
  cases t with
  | nil => simp [split]
  | cons c rest =>
    unfold split
    split
    · simp
    · split <;> simp

theorem join_split (sep : CodePoint) (t : Text) : join [sep] (split sep t) = t := by
  induction t with
  | nil => simp [split, join]
  | cons c rest ih =>
    have hne := split_ne_nil sep rest
    unfold split
    split
    · next h =>
      subst h
      cases hs : split c rest with
      | nil => exact absurd hs hne
      | cons p ps => rw [hs] at ih; simp [join, ih]
    · cases hs : split sep rest with
      | nil => exact absurd hs hne
      | cons p ps =>
        rw [hs] at ih
        cases ps <;> simp_all [join]

end Text

end Redraft
