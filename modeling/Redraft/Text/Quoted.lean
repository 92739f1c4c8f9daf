import Redraft.Text.Printable

/-!
Text between quotes, as messages show it. Single quotes unless the text has a single quote and no
double quote; what is not printable is escaped.
-/
namespace Redraft.Text

def numberEscape (c : CodePoint) : Text :=
  let n := c.value
  if n < 0x100 then ofString "\\x" ++ hex 2 n
  else if n < 0x10000 then ofString "\\u" ++ hex 4 n
  else ofString "\\U" ++ hex 8 n

def escape (quote : Char) (c : CodePoint) : Text :=
  if c = .scalar quote ∨ c = .scalar '\\' then [.scalar '\\', c]
  else if c = .scalar '\n' then "\\n"
  else if c = .scalar '\r' then "\\r"
  else if c = .scalar '\t' then "\\t"
  else if c.isPrintable then [c]
  else numberEscape c

def quoted (t : Text) : Text :=
  let quote : Char := if t.contains (.scalar '\'') && !t.contains (.scalar '"') then '"' else '\''
  .scalar quote :: t.flatMap (escape quote) ++ [.scalar quote]

end Redraft.Text
