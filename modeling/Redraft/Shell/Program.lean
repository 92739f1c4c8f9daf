import Redraft.Shell.Condition
import Redraft.Shell.Grammar
import Redraft.Shell.Options

/-!
Programs outside the shell: what they print, and the status that they leave.
-/
namespace Redraft.Shell

def programNames : List Text := ["cat", "echo", "false", "printf", "pwd", "sleep", "test", "true", "["]

def programDirs : List Text := ["/usr/bin/", "/bin/"]

def shellName : Text := "sh"

def programAt? (path : Text) : Option Text :=
  programDirs.findSome? fun dir =>
    (Text.dropStart? dir path).filter fun n => n = shellName || programNames.contains n

def duration? (t : Text) : Option Float :=
  let units : List (Char × Float) := [('s', 1.0), ('m', 60.0), ('h', 3600.0), ('d', 86400.0)]
  let (t, unit) := match t.getLast? with
    | some (.scalar c) => match units.lookup c with
      | some x => (t.dropLast, x)
      | none => (t, 1.0)
    | _ => (t, 1.0)
  if t = Text.ofString "inf" ∨ t = Text.ofString "infinity" then some (1.0 / 0.0)
  else
    let whole := t.takeWhile isDigit
    let fraction? := match t.drop whole.length with
      | [] => some []
      | .scalar '.' :: r => some r
      | _ => none
    fraction?.bind fun r =>
      if (whole ++ r).isEmpty then none
      else (Text.digits? 10 (whole ++ r)).map fun n => Float.ofScientific n true r.length * unit

/-- How lines are shown: which get a number, how their ends and tabs are marked. -/
structure LineStyle where
  numbered : Bool
  skipsEmpty : Bool
  squeezed : Bool
  ends : Bool
  tabs : Bool
  marks : Bool

namespace LineStyle

def plain : LineStyle := ⟨false, false, false, false, false, false⟩

def add (s : LineStyle) (c : Char) : LineStyle :=
  match c with
  | 'A' => { s with ends := true, tabs := true, marks := true }
  | 'b' => { s with numbered := true, skipsEmpty := true }
  | 'e' => { s with ends := true, marks := true }
  | 'E' => { s with ends := true }
  | 'n' => { s with numbered := true }
  | 's' => { s with squeezed := true }
  | 't' => { s with tabs := true, marks := true }
  | 'T' => { s with tabs := true }
  | 'v' => { s with marks := true }
  | _ => s

def shown (s : LineStyle) (c : CodePoint) : Text :=
  let n := c.value
  let marked (n : Nat) : Text :=
    if n = 127 then "^?" else if n < 32 then [.scalar '^', byte (n + 64)] else [byte n]
  if n = 9 then if s.tabs then "^I" else [c]
  else if !s.marks then [c]
  else if n < 128 then marked n
  else Text.ofString "M-" ++ marked (n - 128)

end LineStyle

/-- How far the lines of several files have been shown. -/
structure Shown where
  out : Text
  number : Nat
  atStart : Bool
  empty : Nat

def curlyQuotes (t : Text) : Text := bytewise "‘" ++ t ++ bytewise "’"

def isPlainName (c : CodePoint) : Bool :=
  let others : Text := "%+,-./:=@_]\x7b\x7d#~"
  0x80 ≤ c.value || isNameChar c || others.contains c

def isControl (c : CodePoint) : Bool := c.value < 32 || c.value = 127

def controlEscape (c : CodePoint) : Text :=
  let named := byteEscapes.find? fun e => e.2 = c.value
  .scalar '\\' :: match named with
    | some (letter, _) => if letter = 'e' then "033" else [.scalar letter]
    | none =>
      let t : Text := (Nat.toDigits 8 c.value).map .scalar
      List.replicate (3 - t.length) (.scalar '0') ++ t

def shownName (t : Text) : Text :=
  let single : CodePoint := .scalar '\''
  let active : Text := "\"$\\"
  let lead : Text := "~#"
  if t.all isPlainName && !t.isEmpty && !(t.head?.any lead.contains) then t
  else if t.contains single && !t.any fun c => active.contains c || c.value = 0x60 || isControl c then
    inQuotes t
  else
    let shown (before : Option CodePoint) (c : CodePoint) : Text :=
      let wasControl := before.any isControl
      if isControl c then
        (if wasControl then [] else Text.ofString "'$'") ++ controlEscape c
      else (if wasControl then Text.ofString "''" else [])
        ++ if c = single then Text.ofString "'\\''" else [c]
    let pieces := (none :: t.map some).zip t
    let body := pieces.flatMap fun (before, c) => shown before c
    single :: body ++ [single]

def padLeft (width : Nat) (t : Text) : Text :=
  List.replicate (width - t.length) (.scalar ' ') ++ t

def showLine (s : LineStyle) (line : Text) (ended : Bool) (d : Shown) : Shown :=
  let isEmpty := d.atStart && line.isEmpty && ended
  let empty := if isEmpty then d.empty + 1 else 0
  if isEmpty && s.squeezed && 1 < empty then { d with empty := empty }
  else
    let isNumbered := s.numbered && d.atStart && !(s.skipsEmpty && isEmpty)
      && (ended || !line.isEmpty)
    let number := if isNumbered then d.number + 1 else d.number
    let lead := if isNumbered then padLeft 6 (Text.ofNat number) ++ [.scalar '\t'] else []
    let close : Text := if ended then (if s.ends then "$\n" else "\n") else []
    ⟨d.out ++ (lead ++ line.flatMap s.shown ++ close), number, ended || (d.atStart && line.isEmpty),
      empty⟩

def showLines (s : LineStyle) : List Text → Shown → Shown
  | [], d => d
  | [last], d => if last.isEmpty then d else showLine s last false d
  | line :: rest, d => showLines s rest (showLine s line true d)

namespace Machine

def say (t : Text) (status : Nat) (m : Machine) : Machine :=
  (m.write 2 (t ++ [Text.newline])).done status

def badOption (program option : Text) (m : Machine) : Machine :=
  let lead := if (Text.ofString "--").isPrefixOf option
    then Text.ofString ": unrecognized option '" ++ option
    else Text.ofString ": invalid option -- '" ++ (option.drop 1).take 1
  (m.say (program ++ lead ++ Text.ofString "'") 1).say
    (Text.ofString "Try '" ++ program ++ Text.ofString " --help' for more information.") 1

def isOption (t : Text) : Bool := t.head? = some (.scalar '-') && 1 < t.length

def operandText (name : Text) (m : Machine) : Except String (Text × Machine) :=
  if name = Text.ofString "-" then
    match m.end? 0 with
    | some (.source n) => .ok (m.sourceText n, m.setSource n [])
    | some .directory => .error "Is a directory"
    | some .nothing => .ok ([], m)
    | _ => .error "Bad file descriptor"
  else match m.readFile name with
    | .ok t => .ok (t, m)
    | .error .isDirectory => .error "Is a directory"
    | .error (.other e) => .error e.description
    | .error _ =>
      match m.files.stat (pathOf name) with
      | .error e => .error e.description
      | .ok _ => .error (if name.isEmpty then "No such file or directory" else "Not a directory")

def catFrom (s : LineStyle) (status : Nat) : List Text → Shown → Machine → Machine
  | [], _, m => m.done status
  | name :: rest, d, m =>
    match m.operandText name with
    | .error reason =>
      let m := m.say (Text.ofString "cat: " ++ shownName name ++ Text.ofString ": "
        ++ Text.ofString reason) 1
      catFrom s 1 rest d m
    | .ok (t, m) =>
      let isPlain := !(s.numbered || s.squeezed || s.ends || s.tabs || s.marks)
      let d := if isPlain then { d with out := t } else showLines s (Text.lines t) { d with out := [] }
      match m.write? 1 d.out with
      | some m => catFrom s status rest d m
      | none => m.say "cat: standard output: Bad file descriptor" 1

def catLetters : List Char := ['A', 'b', 'e', 'E', 'n', 's', 't', 'T', 'u', 'v']

def cat (args : List Text) (m : Machine) : Machine :=
  let dashes : Text := "--"
  let (before, after) := (args.takeWhile (· ≠ dashes), args.drop ((args.takeWhile (· ≠ dashes)).length + 1))
  let options := before.filter isOption
  let letter? (c : CodePoint) : Option Char := catLetters.find? fun l => c = .scalar l
  let bad := options.findSome? fun o =>
    if dashes.isPrefixOf o then some o
    else (o.drop 1).findSome? fun c => if (letter? c).isSome then none else some [.scalar '-', c]
  match bad, m.end? 1 with
  | some o, _ => m.badOption "cat" o
  | none, none => m.say "cat: standard output: Bad file descriptor" 1
  | none, some _ =>
    let letters := options.flatMap fun o => (o.drop 1).filterMap letter?
    let names := before.filter (fun a => !isOption a) ++ after
    let names : List Text := if names.isEmpty then ["-"] else names
    let shown := catFrom (letters.foldl LineStyle.add .plain) 0 names ⟨[], 0, true, 0⟩ m
    if (m.end? 0).isNone && names.contains (Text.ofString "-") then
      shown.say "cat: closing standard input: Bad file descriptor" 1
    else shown

def sleep (args : List Text) (m : Machine) : Machine :=
  let hint : Text := "Try 'sleep --help' for more information."
  match args.find? fun a => isOption a && a ≠ Text.ofString "--" with
  | some o => m.badOption "sleep" o
  | none =>
    match args.filter (· ≠ Text.ofString "--") with
    | [] => (m.say "sleep: missing operand" 1).say hint 1
    | args =>
      let bad := args.filter fun a => (duration? a).isNone
      if bad.isEmpty then
        let seconds := (args.filterMap duration?).foldl (· + ·) 0.0
        { m with world := { m.world with clock := m.world.clock + seconds }, status := 0 }
      else
        let m := bad.foldl (fun m a =>
          m.say (Text.ofString "sleep: invalid time interval " ++ curlyQuotes a) 1) m
        m.say hint 1

def emit (program t : Text) (m : Machine) : Machine :=
  match m.write? 1 t with
  | some m => m
  | none => m.say (program ++ Text.ofString ": write error: Bad file descriptor") 1

def plainEcho (args : List Text) (m : Machine) : Machine :=
  let (quiet, args) := match args with
    | first :: rest => if first = Text.ofString "-n" then (true, rest) else (false, args)
    | [] => (false, [])
  emit "echo" (Text.join " " args ++ if quiet then [] else [Text.newline]) m

def plainFormat (args : List Text) (m : Machine) : Machine :=
  match if args.head? = some (Text.ofString "--") then args.drop 1 else args with
  | [] => (m.say "printf: missing operand" 1).say "Try 'printf --help' for more information." 1
  | format :: args =>
    let p := formatted format args
    let m := emit "printf" p.out m
    (p.complaints ++ p.fatal.toList).foldl (fun m t => m.say (Text.ofString "printf: " ++ t) 1) m

def plainTest (program : Text) (args : List Text) (m : Machine) : Machine :=
  match condition m 3 args with
  | .ok b => m.done (if b then 0 else 1)
  | .error t => m.say (program ++ Text.ofString ": " ++ t) 2

def program (name : Text) (args : List Text) (m : Machine) : Machine :=
  let m := m.done 0
  if name = Text.ofString "cat" then m.cat args
  else if name = Text.ofString "sleep" then m.sleep args
  else if name = Text.ofString "false" then m.done 1
  else if name = Text.ofString "echo" then m.plainEcho args
  else if name = Text.ofString "printf" then m.plainFormat args
  else if name = Text.ofString "pwd" then emit "pwd" (m.workingDir ++ [Text.newline]) m
  else if name = Text.ofString "test" then m.plainTest name args
  else if name = Text.ofString "[" then
    if args.getLast? = some (Text.ofString "]") then m.plainTest name args.dropLast
    else m.say "[: missing ']'" 2
  else m

end Machine

end Redraft.Shell
