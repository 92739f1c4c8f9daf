import Redraft.Text.Basic

/-!
Arguments of the command line: three positional ones and options, which may stand anywhere. An
option takes its value from behind an equals sign or from the next argument, and a short one from
the rest of its own; two hyphens end the options.
-/
namespace Redraft.CommandLine

/-- What the arguments ask for. -/
structure Request where
  positional : List Text := []
  check : Bool := false
  verbose : Bool := false
  version : Bool := false
  config : Option Text := none
  guide : Option Text := none

/-- What an option sets. -/
inductive Setting where
  | flag (set : Request → Request)
  | value (set : Text → Request → Request)

def check : Setting := .flag fun r => { r with check := true }
def verbose : Setting := .flag fun r => { r with verbose := true }
def version : Setting := .flag fun r => { r with version := true }
def config : Setting := .value fun v r => { r with config := some v }
def guide : Setting := .value fun v r => { r with guide := some v }

def longOptions : List (Text × Setting) := [
  ("--check", check), ("--config", config), ("--guide", guide), ("--verbose", verbose),
  ("--version", version)]

def shortOptions : List (CodePoint × Setting) := [
  (.scalar 'c', config), (.scalar 'g', guide), (.scalar 'v', version)]

def hyphen : CodePoint := '-'

/-- Short options in one argument; nothing if there is no such option or a value is missing. -/
def short? : Text → List Text → Request → Option (Request × List Text)
  | [], rest, r => some (r, rest)
  | c :: more, rest, r =>
    match shortOptions.lookup c with
    | none => none
    | some (.flag set) => short? more rest (set r)
    | some (.value set) =>
      if more.isEmpty then
        match rest with
        | [] => none
        | v :: rest => some (set v r, rest)
      else some (set more r, rest)

def option? (arg : Text) (rest : List Text) (r : Request) : Option (Request × List Text) :=
  let (name, value) := match Text.breakOn? "=" arg with
    | some (name, value) => (name, some value)
    | none => (arg, none)
  match longOptions.lookup name, value, rest with
  | some (.flag set), none, _ => some (set r, rest)
  | some (.flag _), some _, _ => none
  | some (.value set), some v, _ => some (set v r, rest)
  | some (.value set), none, v :: rest => some (set v r, rest)
  | some (.value _), none, [] => none
  | none, _, _ =>
    if (Text.ofString "--").isPrefixOf arg then none else short? (arg.drop 1) rest r

def readFrom? : Nat → List Text → Request → Option Request
  | _, [], r => some r
  | 0, _, _ => none
  | fuel + 1, arg :: rest, r =>
    if arg = Text.ofString "--" then some { r with positional := r.positional ++ rest }
    else if arg.head? = some hyphen ∧ 1 < arg.length then
      (option? arg rest r).bind fun (r, rest) => readFrom? fuel rest r
    else readFrom? fuel rest { r with positional := r.positional ++ [arg] }

def read? (args : List Text) : Option Request := readFrom? args.length args {}

end Redraft.CommandLine
