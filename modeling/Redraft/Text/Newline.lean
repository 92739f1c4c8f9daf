import Redraft.Text.Blank

/-!
Line ends. Reading a text file turns each of the three kinds of line end into one; writing keeps
what it is given.
-/
namespace Redraft.Text

/-- Every line end made the same: a carriage return, alone or before a newline, is a newline. -/
def unifyNewlines : Text → Text
  | [] => []
  | .scalar '\r' :: .scalar '\n' :: rest => newline :: unifyNewlines rest
  | c :: rest => (if c = .scalar '\r' then newline else c) :: unifyNewlines rest

/-- The lines that a reader going line by line gets, each with its end; the last may have none. -/
def readLines : Text → List Text
  | [] => []
  | c :: rest =>
    if c = newline then [c] :: readLines rest
    else match readLines rest with
      | [] => [[c]]
      | line :: lines => (c :: line) :: lines

def isLineEnd (c : CodePoint) : Bool := c = .scalar '\r' || c = newline

def trimLineEnd (line : Text) : Text := (line.reverse.dropWhile isLineEnd).reverse

end Redraft.Text
