import Redraft.Data

/-!
Decoding of JSON texts. A text that is not JSON is refused with the first point at which no JSON
text can go on. Numbers without limits are read as well, and of two fields with one name the last
counts. Whole numbers of more than 4300 digits are refused, and so are values nested too deeply.
-/
namespace Redraft.Json

/-- What is wrong at a point of a text. -/
inductive Cause where
  | expectingValue
  | expectingName
  | expectingColon
  | expectingComma
  | extraData
  | unterminatedString
  | badUnicodeEscape
  | badEscape
  | controlCharacter
  | byteOrderMark
  deriving DecidableEq

def Cause.message : Cause → String
  | expectingValue => "Expecting value"
  | expectingName => "Expecting property name enclosed in double quotes"
  | expectingColon => "Expecting ':' delimiter"
  | expectingComma => "Expecting ',' delimiter"
  | extraData => "Extra data"
  | unterminatedString => "Unterminated string starting at"
  | badUnicodeEscape => "Invalid \\uXXXX escape"
  | badEscape => "Invalid \\escape"
  | controlCharacter => "Invalid control character at"
  | byteOrderMark => "Unexpected UTF-8 BOM (decode using utf-8-sig)"

/-- What a bracket opens. -/
inductive Nest where
  | array
  | object
  deriving DecidableEq

inductive Failure where
  | malformed (cause : Cause) (position : Nat)
  | longInteger (digits : Nat)
  /-- Brackets in brackets beyond the limit; the bracket there opens this. -/
  | tooDeep (nest : Nest)
  deriving DecidableEq

/-- A failure inside a text: the text from the fault on. -/
inductive Stop where
  | malformed (cause : Cause) (rest : Text)
  | longInteger (digits : Nat)
  | tooDeep (nest : Nest)

def isSpace (c : CodePoint) : Bool :=
  c = .scalar ' ' || c = .scalar '\t' || c = .scalar '\n' || c = .scalar '\r'

def skipSpace (t : Text) : Text := t.dropWhile isSpace

def isDigit (c : CodePoint) : Bool := c.digit?.isSome

def fourHex? (t : Text) : Option (Nat × Text) :=
  if 4 < t.length then (Text.digits? 16 (t.take 4)).map (·, t.drop 4) else none

def readUnicode (mark : Text) (t : Text) : Except Stop (CodePoint × Text) :=
  match fourHex? t with
  | none => .error (.malformed .badUnicodeEscape mark)
  | some (n, rest) =>
    let high := (CodePoint.ofNat? n).getD default
    match rest with
    | .scalar '\\' :: .scalar 'u' :: more =>
      if 0xD800 ≤ n ∧ n < 0xDC00 ∧ 4 < more.length then
        match fourHex? more with
        | none => .error (.malformed .badUnicodeEscape (.scalar 'u' :: more))
        | some (m, after) =>
          match Text.pair? high ((CodePoint.ofNat? m).getD default) with
          | some c => .ok (c, after)
          | none => .ok (high, rest)
      else .ok (high, rest)
    | _ => .ok (high, rest)

def simpleEscape? : CodePoint → Option CodePoint
  | .scalar '"' => some (Char.ofNat 34)
  | .scalar '\\' => some '\\'
  | .scalar '/' => some '/'
  | .scalar 'b' => some (Char.ofNat 8)
  | .scalar 'f' => some (Char.ofNat 12)
  | .scalar 'n' => some '\n'
  | .scalar 'r' => some '\r'
  | .scalar 't' => some '\t'
  | _ => none

def readString (opening : Text) : Nat → Text → Except Stop (Text × Text)
  | 0, _ => .error (.malformed .unterminatedString opening)
  | _ + 1, [] => .error (.malformed .unterminatedString opening)
  | fuel + 1, c :: rest =>
    if c = .scalar '"' then .ok ([], rest)
    else if c = .scalar '\\' then
      match rest with
      | [] => .error (.malformed .unterminatedString opening)
      | .scalar 'u' :: digits => do
        let (d, rest) ← readUnicode rest digits
        let (t, rest) ← readString opening fuel rest
        return (d :: t, rest)
      | e :: after =>
        match simpleEscape? e with
        | none => .error (.malformed .badEscape (c :: rest))
        | some d => do
          let (t, rest) ← readString opening fuel after
          return (d :: t, rest)
    else if c.value ≤ 0x1F then .error (.malformed .controlCharacter (c :: rest))
    else do
      let (t, rest) ← readString opening fuel rest
      return (c :: t, rest)

def takeFraction (t : Text) : Option Text × Text :=
  match t with
  | .scalar '.' :: rest =>
    let digits := rest.takeWhile isDigit
    if digits.isEmpty then (none, t) else (some digits, rest.dropWhile isDigit)
  | _ => (none, t)

def takeExponent (t : Text) : Option Int × Text :=
  match t with
  | .scalar e :: rest =>
    if e = 'e' ∨ e = 'E' then
      let (negative, rest) := match rest with
        | .scalar '-' :: r => (true, r)
        | .scalar '+' :: r => (false, r)
        | r => (false, r)
      match Text.digits? 10 (rest.takeWhile isDigit) with
      | none => (none, t)
      | some n => (some (if negative then -(n : Int) else n), rest.dropWhile isDigit)
    else (none, t)
  | _ => (none, t)

def longestInteger : Nat := 4300

def readNumber (start : Text) : Except Stop (Data × Text) :=
  let (negative, t) := match start with
    | .scalar '-' :: r => (true, r)
    | r => (false, r)
  let whole := match t with
    | .scalar '0' :: _ => t.take 1
    | _ => t.takeWhile isDigit
  if whole.isEmpty then .error (.malformed .expectingValue start)
  else
    let (fraction, rest) := takeFraction (t.drop whole.length)
    let (exponent, rest) := takeExponent rest
    if fraction.isSome ∨ exponent.isSome then
      .ok (.float (Decimal.readParts negative whole (fraction.getD []) (exponent.getD 0)), rest)
    else if longestInteger < whole.length then .error (.longInteger whole.length)
    else
      let n : Nat := (Text.digits? 10 whole).getD 0
      .ok (.int (if negative then -(n : Int) else n), rest)

def words : List (Text × Data) := [
  ("null", .null), ("true", .bool true), ("false", .bool false), ("NaN", .float (0.0 / 0.0)),
  ("Infinity", .float (1.0 / 0.0)), ("-Infinity", .float (-1.0 / 0.0))]

def readScalar (t : Text) : Except Stop (Data × Text) :=
  match words.findSome? fun (word, d) => (Text.dropStart? word t).map (d, ·) with
  | some found => .ok found
  | none => readNumber t

mutual

/-- A value with room for so many open brackets. -/
def readValue : (fuel room : Nat) → Text → Except Stop (Data × Text)
  | 0, _, t => .error (.malformed .expectingValue t)
  | fuel + 1, room, t =>
    match t, room with
    | .scalar '"' :: rest, _ => (readString t (rest.length + 1) rest).map fun (s, r) => (.text s, r)
    | .scalar '[' :: _, 0 => .error (.tooDeep .array)
    | .scalar '{' :: _, 0 => .error (.tooDeep .object)
    | .scalar '[' :: rest, room + 1 =>
      match skipSpace rest with
      | .scalar ']' :: rest => .ok (.list [], rest)
      | rest => (readItems fuel room rest).map fun (items, r) => (.list items, r)
    | .scalar '{' :: rest, room + 1 =>
      match skipSpace rest with
      | .scalar '}' :: rest => .ok (.map [], rest)
      | rest => (readFields fuel room [] rest).map fun (fields, r) => (.map fields, r)
    | _, _ => readScalar t

def readItems : (fuel room : Nat) → Text → Except Stop (List Data × Text)
  | 0, _, t => .error (.malformed .expectingValue t)
  | fuel + 1, room, t => do
    let (item, rest) ← readValue fuel room t
    match skipSpace rest with
    | .scalar ']' :: rest => return ([item], rest)
    | .scalar ',' :: rest =>
      let (items, rest) ← readItems fuel room (skipSpace rest)
      return (item :: items, rest)
    | rest => throw (.malformed .expectingComma rest)

def readFields : (fuel room : Nat) → List (Data × Data) → Text →
    Except Stop (List (Data × Data) × Text)
  | 0, _, _, t => .error (.malformed .expectingName t)
  | fuel + 1, room, fields, t => do
    let .scalar '"' :: opened := t | throw (.malformed .expectingName t)
    let (name, rest) ← readString t (opened.length + 1) opened
    let colon := skipSpace rest
    let .scalar ':' :: rest := colon | throw (.malformed .expectingColon colon)
    let (value, rest) ← readValue fuel room (skipSpace rest)
    let fields := Data.put (.text name) value fields
    match skipSpace rest with
    | .scalar '}' :: rest => return (fields, rest)
    | .scalar ',' :: rest => readFields fuel room fields (skipSpace rest)
    | rest => throw (.malformed .expectingComma rest)

end

def Stop.toFailure (whole : Text) : Stop → Failure
  | malformed cause rest => .malformed cause (whole.length - rest.length)
  | longInteger digits => .longInteger digits
  | tooDeep nest => .tooDeep nest

/-- Decodes a text that is one JSON value and white space around it, with room for so many open
brackets. -/
def decode (room : Nat) (t : Text) : Except Failure Data :=
  if t.head?.any (·.value = 0xFEFF) then .error (.malformed .byteOrderMark 0)
  else
    match readValue (2 * t.length + 2) room (skipSpace t) with
    | .error stop => .error (stop.toFailure t)
    | .ok (d, rest) =>
      let rest := skipSpace rest
      if rest.isEmpty then .ok d else .error (.malformed .extraData (t.length - rest.length))

theorem decode_nil (room : Nat) (d : Data) : decode room [] ≠ .ok d := by
  intro h
  cases h

def place (t : Text) (position : Nat) : Text :=
  let lines := Text.lines (t.take position)
  Text.ofString ": line " ++ Text.ofNat lines.length ++ Text.ofString " column "
    ++ Text.ofNat ((lines.getLast?.getD []).length + 1) ++ Text.ofString " (char "
    ++ Text.ofNat position ++ Text.ofString ")"

def Failure.message (t : Text) : Failure → Text
  | malformed cause position => Text.ofString cause.message ++ place t position
  | longInteger digits =>
    Text.ofString "Exceeds the limit (4300 digits) for integer string conversion: value has "
      ++ Text.ofNat digits
      ++ Text.ofString " digits; use sys.set_int_max_str_digits() to increase the limit"
  | tooDeep nest =>
    Text.ofString "maximum recursion depth exceeded while decoding a JSON "
      ++ Text.ofString (match nest with | .array => "array" | .object => "object")
      ++ Text.ofString " from a unicode string"

end Redraft.Json
