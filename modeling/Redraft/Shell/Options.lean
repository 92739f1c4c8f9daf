import Redraft.Shell.Machine

/-!
Options of commands and of the shell: letters behind a dash, some with an argument, up to the first
word that is none.
-/
namespace Redraft.Shell

abbrev Given := Char × Text

def isGiven (c : Char) (given : List Given) : Bool := given.any (·.1 = c)

/-- The options at the start of words, and the words behind them, for letters that are known and
those of them that take an argument; or why there are none. -/
def optionsOf (letters withArgument : List Char) :
    Nat → List Text → Except Text (List Given × List Text)
  | 0, ws => .ok ([], ws)
  | _ + 1, [] => .ok ([], [])
  | fuel + 1, w :: rest =>
    match w with
    | .scalar '-' :: .scalar c :: more =>
      if c = '-' ∧ more.isEmpty then .ok ([], rest)
      else if withArgument.contains c then
        match more, rest with
        | [], [] => .error (Text.ofString "No arg for -" ++ [.scalar c] ++ Text.ofString " option")
        | [], a :: rest => do
          let (all, ws) ← optionsOf letters withArgument fuel rest
          return ((c, a) :: all, ws)
        | a, rest => do
          let (all, ws) ← optionsOf letters withArgument fuel rest
          return ((c, a) :: all, ws)
      else if letters.contains c then do
        let rest := if more.isEmpty then rest else (.scalar '-' :: more) :: rest
        let (all, ws) ← optionsOf letters withArgument fuel rest
        return ((c, []) :: all, ws)
      else .error (Text.ofString "Illegal option -" ++ [.scalar c])
    | _ => .ok ([], w :: rest)

def optionSteps (ws : List Text) : Nat := ws.flatten.length + ws.length + 1

def shellOptions : List (String × Option Char) := [
  ("errexit", some 'e'), ("noglob", some 'f'), ("ignoreeof", some 'I'), ("interactive", some 'i'),
  ("monitor", some 'm'), ("noexec", some 'n'), ("stdin", some 's'), ("xtrace", some 'x'),
  ("verbose", some 'v'), ("vi", some 'V'), ("emacs", some 'E'), ("noclobber", some 'C'),
  ("allexport", some 'a'), ("notify", some 'b'), ("nounset", some 'u'), ("privileged", some 'p'),
  ("nolog", none), ("debug", none)]

namespace Machine

def letterOption (on : Bool) (c : CodePoint) (m : Machine) : Except Text Machine :=
  let known := shellOptions.any fun (_, letter) => letter.map .scalar = some c
  if known then .ok (m.setOption c on)
  else .error (Text.ofString "Illegal option -" ++ [c])

def namedOption (on : Bool) (name : Text) (m : Machine) : Except Text Machine :=
  match shellOptions.find? fun (n, _) => Text.ofString n = name with
  | some (_, some letter) => .ok (m.setOption (.scalar letter) on)
  | some (_, none) => .ok m
  | none => .error (Text.ofString "Illegal option -o " ++ name)

def optionList (asWords : Bool) (m : Machine) : Text :=
  let isOn (letter : Option Char) : Bool := letter.any m.has
  let line (name : String) (letter : Option Char) : Text :=
    if asWords then
      Text.ofString (if isOn letter then "set -o " else "set +o ") ++ Text.ofString name
    else
      let pad := List.replicate (16 - name.length) (CodePoint.scalar ' ')
      Text.ofString name ++ pad ++ (if isOn letter then "on" else "off")
  let head : Text := if asWords then [] else "Current option settings\n"
  head ++ (shellOptions.map fun (name, letter) => line name letter ++ [Text.newline]).flatten

/-- What words of options leave: the words behind them, if they were ended by a mark of their own,
whether the next word is a script, and what is to be printed. -/
structure Chosen where
  machine : Machine
  rest : List Text
  ended : Bool
  script : Bool
  shown : Text

def chooseLetters (starting on : Bool) : Text → Chosen → Except Text Chosen
  | [], c => .ok c
  | letter :: more, c =>
    if starting && letter = .scalar 'c' then chooseLetters starting on more { c with script := true }
    else if starting && letter = .scalar 'l' then chooseLetters starting on more c
    else if letter = .scalar 'o' then
      match c.rest with
      | [] => chooseLetters starting on more { c with shown := c.shown ++ c.machine.optionList (!on) }
      | name :: rest => do
        let m ← c.machine.namedOption on name
        chooseLetters starting on more { c with machine := m, rest := rest }
    else do
      let m ← c.machine.letterOption on letter
      chooseLetters starting on more { c with machine := m }

def choose (starting : Bool) : Nat → Chosen → Except Text Chosen
  | 0, c => .ok c
  | fuel + 1, c =>
    match c.rest with
    | (.scalar '-' :: letters) :: rest =>
      if letters.isEmpty then
        let m := if starting then c.machine
          else (c.machine.setOption (.scalar 'x') false).setOption (.scalar 'v') false
        .ok { c with rest := rest, machine := m }
      else if letters = Text.ofString "-" then .ok { c with rest := rest, ended := true }
      else do choose starting fuel (← chooseLetters starting true letters { c with rest := rest })
    | (.scalar '+' :: letters) :: rest => do
      choose starting fuel (← chooseLetters starting false letters { c with rest := rest })
    | _ => .ok c

def chosen (starting : Bool) (ws : List Text) (m : Machine) : Except Text Chosen :=
  choose starting (ws.length + 1) ⟨m, ws, false, false, []⟩

end Machine

end Redraft.Shell
