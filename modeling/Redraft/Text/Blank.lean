import Redraft.Text.Basic

/-!
White space, and texts trimmed of it. A line end is white space, a zero-width space is not.
-/
namespace Redraft

/-- White space: controls that separate, spaces of every width, line and paragraph separators. -/
def CodePoint.isBlank (c : CodePoint) : Bool :=
  let n := c.value
  (9 ≤ n && n ≤ 13) || (0x1C ≤ n && n ≤ 0x20) || n == 0x85 || n == 0xA0 || n == 0x1680
    || (0x2000 ≤ n && n ≤ 0x200A) || n == 0x2028 || n == 0x2029 || n == 0x202F || n == 0x205F
    || n == 0x3000

namespace Text

def isBlank (t : Text) : Bool := t.all (·.isBlank)

def trimStart (t : Text) : Text := t.dropWhile (·.isBlank)

def trimEnd (t : Text) : Text := (t.reverse.dropWhile (·.isBlank)).reverse

def trim (t : Text) : Text := trimEnd (trimStart t)

end Text

end Redraft
