import Redraft.Text.Basic

/-!
Characters by their names. Ideographs and syllables have names made by rule.
-/
namespace Redraft.CodePoint

/-- The parts of the names of syllables: what they begin with, their vowels, what they end with. -/
def leadNames : List String := [
  "G", "GG", "N", "D", "DD", "R", "M", "B", "BB", "S", "SS", "", "J", "JJ", "C", "K", "T", "P", "H"]
def vowelNames : List String := [
  "A", "AE", "YA", "YAE", "EO", "E", "YEO", "YE", "O", "WA", "WAE", "OE", "YO", "U", "WEO", "WE",
  "WI", "YU", "EU", "YI", "I"]
def tailNames : List String := [
  "", "G", "GG", "GS", "N", "NJ", "NH", "D", "L", "LG", "LM", "LB", "LS", "LT", "LP", "LH", "M",
  "B", "BS", "S", "SS", "NG", "J", "C", "K", "T", "P", "H"]

/-- The place of the longest of some names that a text starts with, and what follows it. -/
def longestName? (names : List String) (t : Text) : Option (Nat × Text) :=
  let found := names.zipIdx.filterMap fun (name, i) =>
    (Text.dropStart? (Text.ofString name) t).map (i, ·)
  found.foldl (fun best (i, rest) =>
    if best.all fun (_, r) => rest.length < r.length then some (i, rest) else best) none

def syllable? (t : Text) : Option Nat := do
  let (lead, t) ← longestName? leadNames t
  let (vowel, t) ← longestName? vowelNames t
  let (tail, t) ← longestName? tailNames t
  if t.isEmpty then some (0xAC00 + (lead * 21 + vowel) * 28 + tail) else none

def ideographRanges : List (Nat × Nat) := [
  (0x3400, 0x4DBF), (0x4E00, 0x9FFF), (0x20000, 0x2A6DF), (0x2A700, 0x2B738), (0x2B740, 0x2B81D),
  (0x2B820, 0x2CEA1), (0x2CEB0, 0x2EBE0), (0x30000, 0x3134A)]

def ideograph? (t : Text) : Option Nat := do
  if t.length = 4 ∨ t.length = 5 then
    let n ← Text.digits? 16 t
    if t.all (fun c => c.lowerAscii = c → c.digit?.isSome) ∧
        ideographRanges.any (fun (first, last) => first ≤ n && n ≤ last) then some n
    else none
  else none

def ofName? (name : Text) : Option CodePoint :=
  match Text.dropStart? "HANGUL SYLLABLE " name, Text.dropStart? "CJK UNIFIED IDEOGRAPH-" name with
  | some t, _ => (syllable? t).bind ofNat?
  | none, some t => (ideograph? t).bind ofNat?
  | none, none => none

end Redraft.CodePoint
