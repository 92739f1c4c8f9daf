import Redraft.Shell.Source

/-!
How a script is written: words with their quotes and values, and commands made of words. A command is
read up to the end of its line; the next one is read after it has run.
-/
namespace Redraft.Shell

open Shell.Parser

/-- Where the text of a word stands. -/
inductive Place where
  | bare
  | mark
  | double
  | document
  | sum (depth : Nat)
  /-- Behind the name of a parameter between braces, outside quotes. -/
  | braces
  /-- The same within quotes or a document; `inner` if a further quote is open. -/
  | quotedBraces (inner inDocument : Bool)

namespace Place

def isQuoted : Place → Bool
  | bare => false
  | mark => false
  | braces => false
  | _ => true

def hasValues : Place → Bool
  | mark => false
  | _ => true

def openFault? : Place → Option Text
  | double => some "Syntax error: Unterminated quoted string"
  | sum _ => some "Syntax error: Missing '))'"
  | braces => some "Syntax error: Missing '\x7d'"
  | quotedBraces _ true => some "Syntax error: Missing '\x7d'"
  | quotedBraces _ false => some "Syntax error: Unterminated quoted string"
  | _ => none

/-- The place behind a name between braces; patterns are read as outside quotes. -/
def inBraces (p : Place) (use : Use) : Place :=
  match use, p with
  | .dropStart _, _ => braces
  | .dropEnd _, _ => braces
  | _, bare => braces
  | _, mark => braces
  | _, braces => braces
  | _, document => quotedBraces false true
  | _, quotedBraces _ inDocument => quotedBraces false inDocument
  | _, _ => quotedBraces false false

def unescapes (p : Place) (c : CodePoint) : Bool :=
  c = .scalar '\\' || c.value = 0x60 || c = .scalar '$'
    || (c = .scalar '"' && match p with | document => false | _ => true)
    || (c = .scalar '}' && match p with | quotedBraces inner _ => !inner | _ => false)

end Place

/-- How far a list of commands goes: to the end of a line, to what closes a body, of which it is not
empty, or to what closes output, which may be empty. -/
inductive Extent where
  | line
  | body
  | output

def specialCommands : List Text := [
  ".", ":", "break", "continue", "eval", "exec", "exit", "export", "readonly", "return", "set",
  "shift", "times", "trap", "unset"]

def metaChars : Text := " \t\n;&|<>()"

def specialNames : Text := "!#$*-?@"

def syntaxError {α : Type} (t : Text) : Parser α := fail (Text.ofString "Syntax error: " ++ t)

def keywords : List Text := [
  "!", "case", "do", "done", "elif", "else", "esac", "fi", "for", "if", "in", "then", "until",
  "while", "\x7b", "\x7d"]

def closers : List Text := ["do", "done", "elif", "else", "esac", "fi", "then", "\x7d"]

def Token.endsList : Token → Bool
  | keyword t => closers.contains t
  | op t => t = Text.ofString ")" || t = Text.ofString ";;"
  | stop => true
  | _ => false

def isKeyword (name : Text) : Token → Bool
  | .keyword t => t = name
  | _ => false

def isOp (mark : Text) : Token → Bool
  | .op t => t = mark
  | _ => false

def inQuotes (t : Text) : Text := .scalar '"' :: t ++ [.scalar '"']

def Token.describe : Token → Text
  | word _ => "word"
  | keyword t => inQuotes t
  | op t => inQuotes t
  | newline => "newline"
  | redirect .. => "redirection"
  | stop => "end of file"

def unexpected {α : Type} (t : Token) (wanted : Option Text) : Parser α :=
  let expecting := match wanted with
    | some w =>
      let shown := if w = Text.ofString "word" then w else inQuotes w
      Text.ofString " (expecting " ++ shown ++ Text.ofString ")"
    | none => []
  syntaxError (t.describe ++ Text.ofString " unexpected" ++ expecting)

/-- What stands between old quotes for output, with its backslashes read. -/
def oldQuoted (quoted : Bool) : Nat → Parser Text
  | 0 => return []
  | fuel + 1 => do
    match (← get).rest with
    | [] => syntaxError "EOF in backquote substitution"
    | c :: rest =>
      advance
      if c.value = 0x60 then return []
      else if c = .scalar '\\' then
        match rest with
        | [] => syntaxError "EOF in backquote substitution"
        | d :: _ =>
          advance
          if d = Text.newline then oldQuoted quoted fuel
          else
            let dropped := d = .scalar '\\' || d.value = 0x60 || d = .scalar '$'
              || (quoted && d = .scalar '"')
            let more ← oldQuoted quoted fuel
            return if dropped then d :: more else c :: d :: more
      else return c :: (← oldQuoted quoted fuel)

def singleQuoted : Nat → Parser Text
  | 0 => return []
  | fuel + 1 => do
    match (← get).rest with
    | [] => syntaxError "Unterminated quoted string"
    | c :: _ =>
      advance
      if c = .scalar '\'' then return []
      else return c :: (← singleQuoted fuel)

def use? (colon : Bool) : CodePoint → Option Use
  | .scalar '-' => some (.default colon)
  | .scalar '+' => some (.instead colon)
  | .scalar '?' => some (.demand colon)
  | .scalar '=' => some (.assign colon)
  | _ => none

def bracedName? (fuel : Nat) : Parser (Option Text) := do
  match ← peek? with
  | none => return none
  | some c =>
    if isNameStart c then return some (← takeRun isNameChar fuel)
    else if isDigit c then return some (← takeRun isDigit fuel)
    else if specialNames.contains c then
      advance
      return some [c]
    else return none

/-- Passes over a character that is no use; a line end is not counted then. -/
def passOver : Parser Unit := modify fun s => { s with rest := s.rest.drop 1 }

/-- The use of a parameter, read from behind its name; the closing brace is taken if it is plain. -/
def useOf : Parser Use := do
  match ← peek? with
  | none => return .bad
  | some c =>
    if c = .scalar '}' then
      advance
      return .plain
    else if c = .scalar '%' then
      advance
      return .dropEnd (← skip '%')
    else if c = .scalar '#' then
      advance
      return .dropStart (← skip '#')
    else
      let colon ← skip ':'
      match ← peek? with
      | none => return .bad
      | some d =>
        match use? colon d with
        | some u =>
          advance
          return u
        | none =>
          passOver
          return .bad

def bracedHead (fuel : Nat) : Parser (Text × Use) := do
  if ← skip '#' then
    match ← peek? with
    | none => return ([], .bad)
    | some c =>
      if isNameChar c then
        let name := (← bracedName? fuel).getD []
        return (name, if (← peek?) = some (.scalar '}') then .length else .bad)
      else
        -- what is followed by the closing brace has its length taken
        let before ← get
        passOver
        if c ≠ .scalar '}' ∧ (← peek?) = some (.scalar '}') then
          return ([c], if specialNames.contains c then .length else .bad)
        else
          set before
          return ("#", ← useOf)
  else
    match ← bracedName? fuel with
    | some name => return (name, ← useOf)
    | none =>
      unless (← peek?) = some (.scalar '}') do passOver
      return ([], .bad)

def redirectToken (digit : Option Nat) (first : Char) : Parser Token := do
  if digit.isSome then advance
  advance
  let followers : List Text := if first = '>' then [">", "|", "&"] else ["<-", "<", "&", ">"]
  let s ← get
  match followers.find? fun f => f.isPrefixOf s.rest with
  | some f =>
    set { s with rest := s.rest.drop f.length }
    return .redirect digit (.scalar first :: f)
  | none => return .redirect digit [.scalar first]

def Part.isArguments : Part → Bool
  | param name .plain _ _ => name = Text.ofString "@"
  | _ => false

mutual

def parts (p : Place) : Nat → Parser Word
  | 0 => return []
  | fuel + 1 => do
    match (← get).rest with
    | [] =>
      match p.openFault? with
      | some reason => fail reason
      | none => return []
    | c :: rest =>
      match p with
      | .bare => if metaChars.contains c then return [] else part p c rest fuel
      | .mark => if metaChars.contains c then return [] else part p c rest fuel
      | .double =>
        if c = .scalar '"' then
          advance
          return []
        else part p c rest fuel
      | .document => part p c rest fuel
      | .braces =>
        if c = .scalar '}' then
          advance
          return []
        else part p c rest fuel
      | .quotedBraces inner inDocument =>
        if c = .scalar '}' ∧ !inner then
          advance
          return []
        else if c = .scalar '"' then
          advance
          parts (.quotedBraces (!inner) inDocument) fuel
        else part p c rest fuel
      | .sum depth =>
        if c = .scalar '(' then
          advance
          return Word.cons (.text [c] true) (← parts (.sum (depth + 1)) fuel)
        else if c = .scalar ')' then
          advance
          if 0 < depth then return Word.cons (.text [c] true) (← parts (.sum (depth - 1)) fuel)
          else if ← skip ')' then return []
          else return Word.cons (.text [c] true) (← parts p fuel)
        else part p c rest fuel

def part (p : Place) (c : CodePoint) (rest : Text) : Nat → Parser Word
  | 0 => return []
  | fuel + 1 => do
    advance
    if c = .scalar '\\' then
      match rest with
      | [] => return [.text [c] true]
      | d :: _ =>
        advance
        if d = Text.newline then parts p fuel
        else
          let kept := p.isQuoted && !p.unescapes d
          return Word.cons (.text (if kept then [c, d] else [d]) true) (← parts p fuel)
    else if c = .scalar '\'' ∧ !p.isQuoted then
      let t ← singleQuoted fuel
      return Word.cons (.text t true) (← parts p fuel)
    else if c = .scalar '"' ∧ !p.isQuoted then
      let inside ← parts .double fuel
      let more ← parts p fuel
      match inside with
      | [only] =>
        return if only.isArguments then only :: more else Word.cons (.text [] true) (only :: more)
      | _ => return Word.cons (.text [] true) (inside ++ more)
    else if c = .scalar '$' ∧ p.hasValues then
      match ← dollar p fuel with
      | some part => return part :: (← parts p fuel)
      | none => return Word.cons (.text [c] p.isQuoted) (← parts p fuel)
    else if c.value = 0x60 ∧ p.hasValues then
      let t ← oldQuoted p.isQuoted fuel
      let output ← inside t fuel
      return .output output p.isQuoted :: (← parts p fuel)
    else return Word.cons (.text [c] p.isQuoted) (← parts p fuel)

def dollar (p : Place) : Nat → Parser (Option Part)
  | 0 => return none
  | fuel + 1 => do
    match ← peek? with
    | none => return none
    | some c =>
      if c = .scalar '(' then
        advance
        if ← skip '(' then return some (.sum (← parts (.sum 0) fuel) p.isQuoted)
        else
          let s ← get
          set { s with asked := [], pushed := none }
          let c ← commands .output none fuel
          let t ← read false false fuel
          unless isOp ")" t do unexpected t (some ")")
          documents fuel
          modify fun t => { t with asked := s.asked, pushed := s.pushed }
          return some (.output c p.isQuoted)
      else if c = .scalar '{' then
        advance
        let (name, use) ← bracedHead fuel
        match use with
        | .plain => return some (.param name .plain [] p.isQuoted)
        | _ =>
          let w ← parts (p.inBraces use) fuel
          return some (.param name use w p.isQuoted)
      else if isNameStart c then
        return some (.param (← takeRun isNameChar fuel) .plain [] p.isQuoted)
      else if isDigit c || specialNames.contains c then
        advance
        return some (.param [c] .plain [] p.isQuoted)
      else return none

def inside (t : Text) : Nat → Parser (Option Script)
  | 0 => return none
  | fuel + 1 => do
    let s ← get
    set { s with rest := t, line := 1, pushed := none, asked := [] }
    let c ← commands .output none fuel
    modify fun t => { t with rest := s.rest, line := s.line, pushed := s.pushed, asked := s.asked }
    return c

def documents : Nat → Parser Unit
  | 0 => return
  | fuel + 1 => do
    let s ← get
    match s.asked with
    | [] => return
    | a :: more =>
      let (t, rest) := documentLines a false (s.rest.length + 1) s.rest
      let passed := s.rest.length - rest.length
      let line := s.line + ((s.rest.take passed).filter (· = Text.newline)).length
      let w ← if a.literal then pure [Part.text t true] else do
        set { s with rest := t, pushed := none, asked := [] }
        parts .document fuel
      modify fun d =>
        { d with rest, line, pushed := s.pushed, asked := more, documents := (a.number, w) :: d.documents }
      documents fuel

def lex : Nat → Parser Token
  | 0 => return .stop
  | fuel + 1 => do
    skipBlanks fuel
    match ← peek? with
    | none => return .stop
    | some c =>
      if c = Text.newline then
        advance
        return .newline
      else if c = .scalar '&' then
        advance
        return .op (if ← skip '&' then "&&" else "&")
      else if c = .scalar '|' then
        advance
        return .op (if ← skip '|' then "||" else "|")
      else if c = .scalar ';' then
        advance
        return .op (if ← skip ';' then ";;" else ";")
      else if c = .scalar '(' ∨ c = .scalar ')' then
        advance
        return .op [c]
      else
        let (digit, t) := match (← get).rest with
          | d :: rest => if isDigit d then (d.digit?, rest) else (none, d :: rest)
          | [] => (none, [])
        match t with
        | .scalar '<' :: _ => redirectToken digit '<'
        | .scalar '>' :: _ => redirectToken digit '>'
        | _ => return .word (← parts .bare fuel)

/-- The next token that counts; `lines` if ends of lines do not, `words` if words may be keywords. -/
def read (lines words : Bool) : Nat → Parser Token
  | 0 => return .stop
  | fuel + 1 => do
    let t ← match (← get).pushed with
      | some t => do
        modify fun s => { s with pushed := none }
        pure t
      | none => lex fuel
    match t with
    | .newline =>
      if lines then
        documents fuel
        read lines words fuel
      else return t
    | .word w =>
      match if words then w.bare? else none with
      | some k => return if keywords.contains k then .keyword k else t
      | none => return t
    | _ => return t

def commands (e : Extent) (before : Option Script) : Nat → Parser (Option Script)
  | 0 => return before
  | fuel + 1 => do
    let isLine := match e with | .line => true | _ => false
    let mayEnd := match e with | .line => false | .body => before.isSome | .output => true
    let t ← read (!isLine) true fuel
    match t with
    | .newline =>
      documents fuel
      return before
    | .stop =>
      documents fuel
      unread .stop
      return before
    | _ =>
      unread t
      if mayEnd && t.endsList then return before
      let c ← andOr fuel
      let t ← read false false fuel
      let c := if isOp "&" t then .background c else c
      let all := match before with
        | some b => Script.series b c
        | none => c
      match t with
      | .stop =>
        documents fuel
        unread .stop
        return some all
      | .newline =>
        unread .newline
        commands e (some all) fuel
      | _ =>
        if isOp "&" t || isOp ";" t then commands e (some all) fuel
        else if isLine then unexpected t none
        else
          unread t
          return some all

def andOr : Nat → Parser Script
  | 0 => syntaxError []
  | fuel + 1 => do andOrRest (← pipeline false fuel) fuel

def andOrRest (a : Script) : Nat → Parser Script
  | 0 => return a
  | fuel + 1 => do
    let t ← read false false fuel
    if isOp "&&" t then andOrRest (.and a (← pipeline true fuel)) fuel
    else if isOp "||" t then andOrRest (.or a (← pipeline true fuel)) fuel
    else
      unread t
      return a

def pipeline (lines : Bool) : Nat → Parser Script
  | 0 => syntaxError []
  | fuel + 1 => do
    let t ← read lines true fuel
    let negated := isKeyword "!" t
    unless negated do unread t
    let first ← command false true fuel
    let rest ← stages fuel
    let all := if rest.isEmpty then first else .pipeline (first :: rest)
    return if negated then .not all else all

def stages : Nat → Parser (List Script)
  | 0 => return []
  | fuel + 1 => do
    let t ← read false false fuel
    if isOp "|" t then
      let c ← command true true fuel
      return c :: (← stages fuel)
    else
      unread t
      return []

def body (close : Text) : Nat → Parser Script
  | 0 => syntaxError []
  | fuel + 1 => do
    let c ← commands .body none fuel
    let t ← read false true fuel
    match c, isKeyword close t || (close = Text.ofString ")" && isOp close t) with
    | some c, true => return c
    | _, _ => unexpected t (some close)

def choice : Nat → Parser Script
  | 0 => syntaxError []
  | fuel + 1 => do
    let test ← body "then" fuel
    let yes ← commands .body none fuel
    let t ← read false true fuel
    match yes with
    | none => unexpected t (some "fi")
    | some yes =>
      if isKeyword "elif" t then return .choice test yes (some (← choice fuel))
      else if isKeyword "else" t then return .choice test yes (some (← body "fi" fuel))
      else if isKeyword "fi" t then return .choice test yes none
      else unexpected t (some "fi")

def wordsUp : Nat → Parser (List Word × Token)
  | 0 => return ([], .stop)
  | fuel + 1 => do
    match ← read false false fuel with
    | .word w =>
      let (more, t) ← wordsUp fuel
      return (w :: more, t)
    | t => return ([], t)

def patterns (t : Token) : Nat → Parser (List Word)
  | 0 => return []
  | fuel + 1 => do
    let w : Word := match t with
      | .word w => w
      | .keyword k => [.text k false]
      | _ => []
    let t ← read false false fuel
    if isOp "|" t then
      let next ← read false false fuel
      return w :: (← patterns next fuel)
    else if isOp ")" t then return [w]
    else unexpected t (some ")")

def clauses : Nat → Parser (List (List Word × Option Script))
  | 0 => return []
  | fuel + 1 => do
    let t ← read true true fuel
    if isKeyword "esac" t then return []
    else
      let t ← if isOp "(" t then read false false fuel else pure t
      let ws ← patterns t fuel
      let c ← commands .output none fuel
      let t ← read true true fuel
      if isKeyword "esac" t then return [(ws, c)]
      else if isOp ";;" t then return (ws, c) :: (← clauses fuel)
      else unexpected t (some ";;")

def redirection (fd : Option Nat) (mark : Text) : Nat → Parser Redirect
  | 0 => syntaxError []
  | fuel + 1 => do
    let isInput := mark.head? = some (.scalar '<')
    let number := fd.getD (if isInput then 0 else 1)
    if mark = Text.ofString "<<" ∨ mark = Text.ofString "<<-" then
      skipBlanks fuel
      let w ← match ← documentMark fuel with
        | some w => pure w
        | none => unexpected (← lex fuel) none
      let end_ := w.flatMap fun p => match p with
        | .text t _ => t
        | _ => []
      let stripped := mark.length = 3
      let end_ := if stripped then end_.dropWhile (· = .scalar '\t') else end_
      return .document number (← ask end_ w.bare?.isNone stripped)
    else
      match ← read false false fuel with
      | .word w =>
        if mark.getLast? = some (.scalar '&') then return .copy number w
        else
          let way : Way :=
            if mark = Text.ofString "<" then .read
            else if mark = Text.ofString "<>" then .both
            else if mark = Text.ofString ">>" then .append
            else if mark = Text.ofString ">|" then .replace
            else .write
          return .file number way w
      | t => unexpected t none

def documentMark : Nat → Parser (Option Word)
  | 0 => return none
  | fuel + 1 => do
    let w ← parts .mark fuel
    return if w.isEmpty then none else some w

/-- Redirections behind a command; the first word behind it may be a keyword. -/
def redirects (words : Bool) : Nat → Parser (List Redirect)
  | 0 => return []
  | fuel + 1 => do
    match ← read false words fuel with
    | .redirect fd mark =>
      let r ← redirection fd mark fuel
      return r :: (← redirects false fuel)
    | t =>
      unread t
      return []

/-- The rest of a simple command: what came before it, and whether a word may be an assignment. -/
def simple (line : Nat) (as : List (Text × Word)) (ws : List Word) (rs : List Redirect) :
    Nat → Parser Script
  | 0 => return .simple line as ws rs
  | fuel + 1 => do
    match ← read false false fuel with
    | .word w =>
      match if ws.isEmpty then w.assignment? else none with
      | some a => simple line (as ++ [a]) ws rs fuel
      | none => simple line as (ws ++ [w]) rs fuel
    | .redirect fd mark =>
      let r ← redirection fd mark fuel
      simple line as ws (rs ++ [r]) fuel
    | t =>
      match isOp "(" t, ws, as, rs with
      | true, [w], [], [] =>
        let t ← read false false fuel
        unless isOp ")" t do unexpected t (some ")")
        match w.bare?.filter fun n => isName n && !specialCommands.contains n with
        | some name => return .define (← get).line name (← command true true fuel)
        | none => syntaxError "Bad function name"
      | _, _, _, _ =>
        unread t
        return .simple line as ws rs

def command (lines words : Bool) : Nat → Parser Script
  | 0 => syntaxError []
  | fuel + 1 => do
    let line := (← get).line
    let t ← read lines words fuel
    let compound (c : Script) : Parser Script := do
      let rs ← redirects true fuel
      return if rs.isEmpty then c else .redirected line c rs
    match t with
    | .word _ =>
      unread t
      simple line [] [] [] fuel
    | .redirect .. =>
      unread t
      simple line [] [] [] fuel
    | .op o =>
      if o = Text.ofString "(" then
        let c ← body ")" fuel
        return .subshell line c (← redirects true fuel)
      else unexpected t none
    | .keyword k =>
      if k = Text.ofString "if" then compound (← choice fuel)
      else if k = Text.ofString "while" ∨ k = Text.ofString "until" then
        let test ← body "do" fuel
        let inner ← body "done" fuel
        compound (.loop (k = Text.ofString "while") test inner)
      else if k = Text.ofString "for" then
        let name ← match ← read false false fuel with
          | .word w =>
            match w.bare?.filter isName with
            | some name => pure name
            | none => syntaxError "Bad for loop variable"
          | _ => syntaxError "Bad for loop variable"
        let t ← read true true fuel
        let ws ← if isKeyword "in" t then do
            let (ws, t) ← wordsUp fuel
            match t with
            | .newline => pure ws
            | _ => if isOp ";" t then pure ws else unexpected t none
          else do
            unless isOp ";" t do unread t
            pure [[Part.param "@" .plain [] true]]
        let t ← read true true fuel
        unless isKeyword "do" t do unexpected t (some "do")
        let inner ← body "done" fuel
        compound (.each line name ws inner)
      else if k = Text.ofString "case" then
        match ← read false false fuel with
        | .word w =>
          let t ← read true true fuel
          unless isKeyword "in" t do unexpected t (some "in")
          compound (.select line w (← clauses fuel))
        | t => unexpected t (some "word")
      else if k = Text.ofString "\x7b" then compound (← body "\x7d" fuel)
      else unexpected t none
    | _ => unexpected t none

end

def documentOf (t : Text) : Word :=
  match (parts .document (16 * t.length + 64)).run ⟨t, 1, none, [], [], 0⟩ with
  | .ok (w, _) => w
  | .error _ => [.text t true]

def Source.start (t : Text) (fresh : Nat) : Source := ⟨t, 1, none, [], [], fresh⟩

def Source.next (s : Source) : Except Fault ((Option Script × Bool) × Source) :=
  let reading : Parser (Option Script × Bool) := do
    let c ← commands .line none (16 * s.rest.length + 64)
    let ends := match (← get).pushed with
      | some .stop => true
      | _ => false
    return (c, ends)
  reading.run { s with pushed := none }

end Redraft.Shell
