import Redraft.Template.Expression

/-!
Templates: text, values put into it, and parts that depend on a condition. A name that has no value
is an error when it is used.
-/
namespace Redraft.Template

open Reader

inductive Piece where
  | text (t : Text)
  | output (e : Expr)
  | choose (test : Expr) (yes no : List Piece)

abbrev Awaited := List (List Text)

def misplaced (word : Option Text) (awaited : Awaited) (outer : List Text) : TemplateError :=
  let first := match word with
    | none => Text.ofString "Unexpected end of template."
    | some w => Text.ofString "Encountered unknown tag " ++ Text.quoted w ++ Text.ofString "."
  let looking := (awaited.head?.map fun words => Text.join " or " (words.map Text.quoted)).getD []
  let second :=
    if looking.isEmpty then []
    else if word.any fun w => awaited.flatten.contains w then
      [Text.ofString "You probably made a nesting mistake. Jinja is expecting this tag, "
        ++ Text.ofString "but currently looking for " ++ looking ++ Text.ofString "."]
    else [Text.ofString "Jinja was looking for the following tags: " ++ looking ++ Text.ofString "."]
  let third := (outer.head?.map fun w =>
    Text.ofString "The innermost block that needs to be closed is " ++ Text.quoted w
      ++ Text.ofString ".").toList
  .malformed (Text.join " " (first :: second ++ third))

def endWords : List Text := ["elif", "else", "endif"]
def lastWords : List Text := ["endif"]

def closeTag : Reader Unit := do
  let _ ← skip (.op ":")
  expect .blockEnd

mutual

def pieces (awaited : Awaited) (outer : List Text) : Nat → Reader (List Piece)
  | 0 => return []
  | fuel + 1 => do
    match ← next? with
    | none => return []
    | some (.data t) =>
      advance
      return .text t :: (← pieces awaited outer fuel)
    | some .outputBegin =>
      advance
      let e ← nextExpression true
      expect .outputEnd
      return .output e :: (← pieces awaited outer fuel)
    | some .blockBegin =>
      advance
      match ← next? with
      | some (.name word) =>
        if awaited.head?.any (·.contains word) then return []
        else if word = Text.ofString "if" then
          advance
          let piece ← condition awaited (word :: outer) fuel
          expect .blockEnd
          return piece :: (← pieces awaited outer fuel)
        else throw (misplaced (some word) awaited outer)
      | _ => refuse "tag name expected"
    | some token => refuse token.describe

def part (words : List Text) (awaited : Awaited) (outer : List Text) :
    Nat → Reader (List Piece × Text)
  | 0 => refuse []
  | fuel + 1 => do
    closeTag
    let inside ← pieces (words :: awaited) outer fuel
    match ← next? with
    | some (.name word) =>
      advance
      return (inside, word)
    | _ => throw (misplaced none (words :: awaited) outer)

def condition (awaited : Awaited) (outer : List Text) : Nat → Reader Piece
  | 0 => refuse []
  | fuel + 1 => do
    let test ← nextExpression false
    let (yes, word) ← part endWords awaited outer fuel
    if word = Text.ofString "elif" then
      return .choose test yes [← condition awaited outer fuel]
    else if word = Text.ofString "else" then
      let (no, _) ← part lastWords awaited outer fuel
      return .choose test yes no
    else return .choose test yes []

end

def parse (t : Text) : Except TemplateError (List Piece) := do
  let tokens := scan t
  let all : Reader (List Piece) := do
    moveTo tokens
    pieces [] [] (3 * tokens.length + 3)
  return (← all.run []).1

def builtins : Context :=
  let shown : List (String × String) := [
    ("range", "range"), ("dict", "dict"), ("namespace", "jinja2.utils.Namespace"),
    ("cycler", "jinja2.utils.Cycler"), ("joiner", "jinja2.utils.Joiner")]
  (Text.ofString "lipsum", Data.text "<function generate_lorem_ipsum>")
    :: shown.map fun (name, kind) =>
      (Text.ofString name, .text (Text.ofString "<class '" ++ kind ++ Text.ofString "'>"))

def itself (name : Text) : Context :=
  [("self", .text (Text.ofString "<TemplateReference " ++ Text.quoted name ++ Text.ofString ">"))]

mutual

def Piece.render (context : Context) : Piece → Except TemplateError Text
  | .text t => .ok t
  | .output e => (eval context e).map Data.display
  | .choose test yes no => do
    if (← eval context test).isTruthy then renderAll context yes else renderAll context no

def renderAll (context : Context) : List Piece → Except TemplateError Text
  | [] => .ok []
  | p :: rest => do
    let t ← p.render context
    return t ++ (← renderAll context rest)

end

/-- The text that a template, known under a name, gives with the values of the names in it. -/
def render (name : Text) (context : Context) (t : Text) : Except TemplateError Text := do
  renderAll (itself name ++ context ++ builtins) (← parse t)

end Redraft.Template
