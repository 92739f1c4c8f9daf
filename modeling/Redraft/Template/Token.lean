import Redraft.Text.Escape
import Redraft.Text.Identifier
import Redraft.Text.Newline

/-!
Tokens of a template. Text outside tags is data. White space around a tag goes where the tag says
so with a minus sign; a block tag that stands alone on its line takes the line's margin and its end
with it; a plus sign keeps them.
-/
namespace Redraft.Template

inductive Token where
  | data (t : Text)
  | outputBegin
  | outputEnd
  | blockBegin
  | blockEnd
  | name (t : Text)
  | string (t : Text)
  | integer (n : Nat)
  | decimal (whole fraction : Text) (exponent : Int)
  | op (t : Text)
  | bad (reason : Text)
  deriving DecidableEq

def Token.describe : Token → Text
  | data _ => "template data / text"
  | outputBegin => "begin of print statement"
  | outputEnd => "end of print statement"
  | blockBegin => "begin of statement block"
  | blockEnd => "end of statement block"
  | name t => t
  | string _ => "string"
  | integer _ => "integer"
  | decimal .. => "float"
  | op t => t
  | bad _ => []

def outputOpen : Text := "\x7b\x7b"
def outputClose : Text := "\x7d\x7d"
def blockOpen : Text := "\x7b%"
def blockClose : Text := "%\x7d"
def commentOpen : Text := "\x7b#"
def commentClose : Text := "#\x7d"

def minus : CodePoint := '-'
def plus : CodePoint := '+'

def takeSign (t : Text) : Option CodePoint × Text :=
  match t with
  | c :: rest => if c = minus ∨ c = plus then (some c, rest) else (none, t)
  | [] => (none, t)

/-- Data before a tag, less the white space that the tag takes. -/
def dataBefore (sign : Option CodePoint) (isOutput lineStart : Bool) (t : Text) : Text :=
  if sign = some minus then Text.trimEnd t
  else if sign = some plus ∨ isOutput then t
  else
    let margin := (t.reverse.takeWhile (· ≠ Text.newline)).reverse
    let atLineStart := margin.length < t.length || lineStart
    if atLineStart && Text.isBlank margin then t.take (t.length - margin.length) else t

def closing? (mark : Text) (isOutput : Bool) (t : Text) : Option (Text × Bool) :=
  let plain (t : Text) : Option (Text × Bool) :=
    (Text.dropStart? mark t).map fun rest =>
      match rest with
      | .scalar '\n' :: more => if isOutput then (rest, false) else (more, true)
      | _ => (rest, false)
  match t with
  | c :: rest =>
    if c = minus then
      (Text.dropStart? mark rest).map fun rest =>
        (Text.trimStart rest, (rest.takeWhile (·.isBlank)).getLast? = some Text.newline)
    else if c = plus ∧ !isOutput then (Text.dropStart? mark rest).map (·, false)
    else plain t
  | [] => none

def firstPlace {α : Type} (found? : Text → Option α) : Text → Option (Text × α)
  | [] => (found? []).map ([], ·)
  | c :: rest =>
    match found? (c :: rest) with
    | some a => some ([], a)
    | none => (firstPlace found? rest).map fun (before, a) => (c :: before, a)

def wordTag? (word : Text) (close? : Text → Option (Text × Bool)) (t : Text) :
    Option (Option CodePoint × Text × Bool) := do
  let t ← Text.dropStart? blockOpen t
  let (sign, t) := takeSign t
  let t ← Text.dropStart? word (Text.trimStart t)
  let (rest, line) ← close? (Text.trimStart t)
  return (sign, rest, line)

def rawClosing? (t : Text) : Option (Text × Bool) :=
  match t with
  | .scalar '-' :: rest =>
    (Text.dropStart? blockClose rest).map fun rest =>
      (Text.trimStart rest, (rest.takeWhile (·.isBlank)).getLast? = some Text.newline)
  | _ => (Text.dropStart? blockClose t).map (·, false)

/-- A tag in data. -/
inductive Opening where
  | raw (rest : Text) (lineStart : Bool)
  | output (rest : Text)
  | block (rest : Text)
  | comment (rest : Text)

def opening? (t : Text) : Option (Option CodePoint × Opening) :=
  match wordTag? "raw" rawClosing? t with
  | some (sign, rest, line) => some (sign, .raw rest line)
  | none =>
    let tag (mark : Text) (make : Text → Opening) : Option (Option CodePoint × Opening) :=
      (Text.dropStart? mark t).map fun rest => let (sign, rest) := takeSign rest; (sign, make rest)
    (tag outputOpen .output).or ((tag commentOpen .comment).or (tag blockOpen .block))

def stringBody? (quote : CodePoint) : Text → Option (Text × Text)
  | [] => none
  | c :: rest =>
    if c = quote then some ([], rest)
    else if c = .scalar '\\' then
      match rest with
      | [] => none
      | d :: rest => (stringBody? quote rest).map fun (body, after) => (c :: d :: body, after)
    else (stringBody? quote rest).map fun (body, after) => (c :: body, after)

def stringToken (written : Text) : Token :=
  match Text.unescape written with
  | .ok t => .string t
  | .error fault => .bad fault.message

def isDecimal (c : CodePoint) : Bool := c.decimal?.isSome

def digitRun (isDigit : CodePoint → Bool) : Text → Text × Text
  | [] => ([], [])
  | c :: rest =>
    if isDigit c then let (more, after) := digitRun isDigit rest; (c :: more, after)
    else if c = .scalar '_' ∧ rest.head?.any isDigit then digitRun isDigit rest
    else ([], c :: rest)

def digitRun? (isDigit : CodePoint → Bool) (t : Text) : Option (Text × Text) :=
  if t.head?.any isDigit then some (digitRun isDigit t) else none

def numeral (base : Nat) (digits : Text) : Nat :=
  digits.foldl (fun n c => n * base + (c.decimal?.or c.hexDigit?).getD 0) 0

def bases : List (Char × Nat) := [('b', 2), ('o', 8), ('x', 16)]

def isDigitOf (base : Nat) (c : CodePoint) : Bool :=
  c.hexDigit?.any (· < base) || (base = 16 && isDecimal c)

def basedInteger? : Text → Option (Token × Text)
  | .scalar '0' :: .scalar letter :: rest => do
    let base ← bases.lookup letter.toLower
    let rest := match rest with
      | .scalar '_' :: more => more
      | _ => rest
    let (digits, after) ← digitRun? (isDigitOf base) rest
    return (.integer (numeral base digits), after)
  | _ => none

def integer? (t : Text) : Option (Token × Text) :=
  match t with
  | .scalar '0' :: _ => (basedInteger? t).or (some (.integer 0, (digitRun (· = .scalar '0') t).2))
  | c :: _ =>
    if c.digit?.isSome then
      let (digits, after) := digitRun isDecimal t
      some (.integer (numeral 10 digits), after)
    else none
  | [] => none

def exponent? : Text → Option (Int × Text)
  | .scalar e :: t => do
    if e.toLower ≠ 'e' then none
    let (sign, t) : Int × Text := match t with
      | .scalar '-' :: t => (-1, t)
      | .scalar '+' :: t => (1, t)
      | _ => (1, t)
    let (digits, after) ← digitRun? isDecimal t
    return (sign * numeral 10 digits, after)
  | _ => none

def fraction? : Text → Option (Text × Text)
  | .scalar '.' :: t => digitRun? isDecimal t
  | _ => none

def decimal? (t : Text) : Option (Token × Text) := do
  let (whole, t) ← digitRun? isDecimal t
  let whole := Text.asciiNumber whole
  match fraction? t with
  | some (fraction, t) =>
    let (exponent, t) := (exponent? t).getD (0, t)
    return (.decimal whole (Text.asciiNumber fraction) exponent, t)
  | none =>
    let (exponent, t) ← exponent? t
    return (.decimal whole [] exponent, t)

def word? (t : Text) : Option (Token × Text) :=
  let word := t.takeWhile fun c => c.isWord || c.isMark
  if word.isEmpty then none
  else
    some (if Text.isIdentifier word then .name word else .bad "Invalid character in identifier",
      t.drop word.length)

def operators : List Text :=
  ["//", "**", "==", "!=", ">=", "<=", "+", "-", "/", "*", "%", "~", "[", "]", "(", ")", "\x7b",
    "\x7d", ">", "<", "=", ".", ":", "|", ",", ";"]

def inner? (t : Text) : Option (Token × Text) :=
  match t with
  | [] => none
  | c :: rest =>
    if c = .scalar '\'' ∨ c = .scalar '"' then
      (stringBody? c rest).map fun (body, after) => (stringToken body, after)
    else
      ((decimal? t).or (integer? t)).or ((word? t).or
        (operators.findSome? fun o => (Text.dropStart? o t).map (.op o, ·)))

/-- Where a scan is: in data, or inside a tag, with the brackets that still have to be closed
there. -/
inductive Place where
  | data (lineStart : Bool)
  | output (awaited : List Text)
  | block (awaited : List Text)

namespace Place

def isOutput : Place → Bool
  | output _ => true
  | _ => false

def awaited : Place → List Text
  | data _ => []
  | output awaited => awaited
  | block awaited => awaited

def await (awaited : List Text) : Place → Place
  | output _ => output awaited
  | block _ => block awaited
  | place => place

end Place

def brackets : List (Text × Text) := [("(", ")"), ("[", "]"), ("\x7b", "\x7d")]

/-- The brackets to be closed after a token; an error if the token closes none that is open. -/
def balance (awaited : List Text) : Token → Except Text (List Text)
  | .op o =>
    match brackets.lookup o, brackets.any (·.2 = o), awaited with
    | some close, _, _ => .ok (close :: awaited)
    | none, false, _ => .ok awaited
    | none, true, [] => .error (Text.ofString "unexpected '" ++ o ++ Text.ofString "'")
    | none, true, close :: rest =>
      if o = close then .ok rest
      else .error (Text.ofString "unexpected '" ++ o ++ Text.ofString "', expected '" ++ close
        ++ Text.ofString "'")
  | _ => .ok awaited

def scanFrom (size : Nat) : Nat → Place → Text → List Token
  | 0, _, _ => []
  | fuel + 1, .data lineStart, t =>
    match firstPlace opening? t with
    | none => if t.isEmpty then [] else [.data t]
    | some (before, sign, opening) =>
      let isOutput := match opening with
        | .output _ => true
        | _ => false
      let text := Token.data (dataBefore sign isOutput lineStart before)
      match opening with
      | .output rest => text :: .outputBegin :: scanFrom size fuel (.output []) rest
      | .block rest => text :: .blockBegin :: scanFrom size fuel (.block []) rest
      | .comment rest =>
        match firstPlace (closing? commentClose false) rest with
        | some (_, rest, line) => text :: scanFrom size fuel (.data line) rest
        | none => if rest.isEmpty then [text] else [text, .bad "Missing end of comment tag"]
      | .raw rest line =>
        match firstPlace (wordTag? "endraw" (closing? blockClose false)) rest with
        | some (body, sign, rest, after) =>
          text :: .data (dataBefore sign false line body) :: scanFrom size fuel (.data after) rest
        | none => if rest.isEmpty then [text] else [text, .bad "Missing end of raw directive"]
  | fuel + 1, place, t =>
    let (mark, closed) : Text × Token :=
      if place.isOutput then (outputClose, .outputEnd) else (blockClose, .blockEnd)
    match if place.awaited.isEmpty then closing? mark place.isOutput t else none with
    | some (rest, line) => closed :: scanFrom size fuel (.data line) rest
    | none =>
      match t with
      | [] => []
      | c :: rest =>
        if c.isBlank then scanFrom size fuel place (Text.trimStart rest)
        else match inner? t with
          | some (token, rest) =>
            match token, balance place.awaited token with
            | .bad reason, _ => [.bad reason]
            | _, .ok awaited => token :: scanFrom size fuel (place.await awaited) rest
            | _, .error reason => [.bad reason]
          | none => [.bad (Text.ofString "unexpected char " ++ Text.quoted [c]
              ++ Text.ofString " at " ++ Text.ofNat (size - t.length))]

def body (t : Text) : Text :=
  let t := Text.unifyNewlines t
  if t.getLast? = some Text.newline then t.dropLast else t

def scan (t : Text) : List Token :=
  let t := body t
  (scanFrom t.length (2 * t.length + 2) (.data true) t).filter (· ≠ .data [])

end Redraft.Template
