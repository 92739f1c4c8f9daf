import Redraft.Data

/-!
JSON texts of values, in ASCII: what is beyond it is escaped, outside the basic plane as a pair.
-/
namespace Redraft.Json

def escapeUnit (n : Nat) : Text := Text.ofString "\\u" ++ Text.hex 4 n

def escape (c : CodePoint) : Text :=
  let n := c.value
  if c = .scalar '"' ∨ c = .scalar '\\' then [.scalar '\\', c]
  else if 0x20 ≤ n ∧ n < 0x7F then [c]
  else if n < 0x10000 then escapeUnit n
  else escapeUnit (0xD800 + (n - 0x10000) / 0x400) ++ escapeUnit (0xDC00 + n % 0x400)

def quote (t : Text) : Text := .scalar '"' :: t.flatMap escape ++ [.scalar '"']

mutual

/-- The JSON text of a value. Numbers without a JSON form are objects that name them. -/
def encode : Data → Text
  | .null => "null"
  | .bool b => if b then "true" else "false"
  | .int n => Text.ofInt n
  | .float x =>
    if x.isFinite then Decimal.write x
    else Text.ofString "\x7b\"float\": " ++ quote (Decimal.write x) ++ Text.ofString "\x7d"
  | .text t => quote t
  | .bytes b => quote (Data.quotedBytes b)
  | .moment shown _ => quote shown
  | .list items => Text.ofString "[" ++ Text.join ", " (encodeAll items) ++ Text.ofString "]"
  | .map fields =>
    Text.ofString "\x7b" ++ Text.join ", " (encodeFields fields) ++ Text.ofString "\x7d"

def encodeAll : List Data → List Text
  | [] => []
  | d :: rest => encode d :: encodeAll rest

def encodeFields : List (Data × Data) → List Text
  | [] => []
  | (k, v) :: rest => (quote k.display ++ Text.ofString ": " ++ encode v) :: encodeFields rest

end

end Redraft.Json
