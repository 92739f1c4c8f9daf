import Redraft.Path
import Redraft.Source.Language

/-!
Configuration: the language of the sources, the agent, the checkers, and the limits of a session.
-/
namespace Redraft

inductive AgentKind where
  | claudeCode
  | fake
  deriving DecidableEq

structure AgentConfig where
  kind : AgentKind := .claudeCode
  binary : Text := "claude"
  defaultModel : Text := "s"
  modelAliases : List (Text × Text) := [("s", "sonnet"), ("o", "opus"), ("h", "haiku")]
  timeout : Nat := 600
  extraArgs : List Text := []
  script : List Text := []
  deriving DecidableEq

namespace AgentConfig

/-- The model that is meant: no name, or an empty one, means the default, and an alias stands for
its model. -/
def resolveModel (c : AgentConfig) (model : Option Text) : Text :=
  let name := match model with
    | some m => if m.isEmpty then c.defaultModel else m
    | none => c.defaultModel
  (c.modelAliases.lookup name).getD name

end AgentConfig

/-- A command that checks the files with one extension. -/
structure CheckerConfig where
  extension : Text
  command : Text
  args : List Text := []
  enabled : Bool := true
  deriving DecidableEq

def CheckerConfig.standard : List CheckerConfig := [
  ⟨".agda", "agda-check", [], true⟩,
  ⟨".kind2", "kind2", ["check"], true⟩,
  ⟨".c", "gcc", ["-fsyntax-only"], true⟩,
  ⟨".ts", "tsc", ["--noEmit"], true⟩,
  ⟨".hs", "ghc", ["-fno-code"], true⟩]

structure Config where
  version : Text := "1.0"
  language : Language := ⟨".sire", ":| ", "^-^", ["sire.sire", "quickcheck.sire"]⟩
  agent : AgentConfig := ⟨.claudeCode, "claude", "s",
    [("s", "sonnet"), ("o", "opus"), ("h", "haiku")], 600, [], []⟩
  checkers : List CheckerConfig := CheckerConfig.standard
  checkTimeout : Nat := 120
  maxRounds : Option Nat := none
  guide : Option Path := none
  deriving DecidableEq

namespace Config

def enabledCheckers (c : Config) : List CheckerConfig := c.checkers.filter (·.enabled)

end Config

end Redraft
