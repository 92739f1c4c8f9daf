import Redraft.Config.Basic
import Redraft.Schema

/-!
Configurations read from documents. All that is absent has its default; all that is wrong is
reported.
-/
namespace Redraft

open Checked Schema

def path (d : Data) : Checked Path :=
  match d with
  | .text t => .ok (.ofText t)
  | _ => fail .notPath

namespace Language

def ofFields (f : List (Data × Data)) : Checked Language :=
  let std : Language := {}
  ((defaulted "source_extension" std.extension text f).map Language.mk)
    |> (and · (defaulted "import_marker" std.importMark text f))
    |> (and · (defaulted "export_marker" std.exportMark text f))
    |> (and · (defaulted "excluded_dependencies" std.excluded (list text) f))

def ofData : Data → Checked Language := record "LanguageConfig" ofFields

end Language

def AgentKind.names : List (Text × AgentKind) := [("claude_code", .claudeCode), ("fake", .fake)]

namespace AgentConfig

def ofFields (f : List (Data × Data)) : Checked AgentConfig :=
  let std : AgentConfig := {}
  ((defaulted "type" std.kind (choice AgentKind.names) f).map AgentConfig.mk)
    |> (and · (defaulted "binary" std.binary text f))
    |> (and · (defaulted "default_model" std.defaultModel text f))
    |> (and · (defaulted "model_aliases" std.modelAliases textMap f))
    |> (and · (defaulted "timeout" std.timeout (atLeast 30) f))
    |> (and · (defaulted "extra_args" std.extraArgs (list text) f))
    |> (and · (defaulted "script" std.script (list text) f))

def ofData : Data → Checked AgentConfig := record "AgentConfig" ofFields

end AgentConfig

namespace CheckerConfig

def isExtension (t : Text) : Bool := (Text.ofString ".").isPrefixOf t && 2 ≤ t.length

def extensionText (d : Data) : Checked Text :=
  (text d).ensure isExtension fun t =>
    .refused (Text.ofString "Checker extension must start with '.': " ++ Text.quoted t)

def ofFields (f : List (Data × Data)) : Checked CheckerConfig :=
  ((required "extension" extensionText f).map CheckerConfig.mk)
    |> (and · (required "command" text f))
    |> (and · (defaulted "args" [] (list text) f))
    |> (and · (defaulted "enabled" true bool f))

def ofData : Data → Checked CheckerConfig := record "CheckerConfig" ofFields

def distinct : List CheckerConfig → Bool
  | [] => true
  | c :: rest => rest.all (fun d => d.extension ≠ c.extension) && distinct rest

def table (d : Data) : Checked (List CheckerConfig) :=
  (list ofData d).ensure distinct fun _ => .refused "Checker extensions must be unique"

end CheckerConfig

namespace Config

def ofFields (f : List (Data × Data)) : Checked Config :=
  let std : Config := {}
  ((defaulted "version" std.version text f).map Config.mk)
    |> (and · (defaulted "language" std.language Language.ofData f))
    |> (and · (defaulted "agent" std.agent AgentConfig.ofData f))
    |> (and · (defaulted "checkers" std.checkers CheckerConfig.table f))
    |> (and · (defaulted "check_timeout" std.checkTimeout (atLeast 1) f))
    |> (and · (defaulted "max_rounds" std.maxRounds (optional (atLeast 1)) f))
    |> (and · (defaulted "guide_path" std.guide (optional path) f))

def ofData : Data → Checked Config := record "SirecoderConfig" ofFields

end Config

end Redraft
