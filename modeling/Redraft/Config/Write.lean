import Redraft.Config.Basic
import Redraft.Data

/-!
Configurations as documents, every field written out. Names of fields are readable texts.
-/
namespace Redraft

namespace Data

def object (fields : List (String × Data)) : Data :=
  .map (fields.map fun (k, v) => (.text (Text.ofString k), v))

def texts (ts : List Text) : Data := .list (ts.map .text)

end Data

def Language.toData (l : Language) : Data := .object [
  ("source_extension", .text l.extension),
  ("import_marker", .text l.importMark),
  ("export_marker", .text l.exportMark),
  ("excluded_dependencies", .texts l.excluded)]

def AgentKind.toText : AgentKind → Text
  | claudeCode => "claude_code"
  | fake => "fake"

def AgentConfig.toData (a : AgentConfig) : Data := .object [
  ("type", .text a.kind.toText),
  ("binary", .text a.binary),
  ("default_model", .text a.defaultModel),
  ("model_aliases", .map (a.modelAliases.foldl (fun done (k, v) =>
    Data.put (.text (Utf8.readable k)) (.text v) done) [])),
  ("timeout", .int a.timeout),
  ("extra_args", .texts a.extraArgs),
  ("script", .texts a.script)]

def CheckerConfig.toData (c : CheckerConfig) : Data := .object [
  ("extension", .text c.extension),
  ("command", .text c.command),
  ("args", .texts c.args),
  ("enabled", .bool c.enabled)]

def Config.toData (c : Config) : Data := .object [
  ("version", .text c.version),
  ("language", c.language.toData),
  ("agent", c.agent.toData),
  ("checkers", .list (c.checkers.map CheckerConfig.toData)),
  ("check_timeout", .int c.checkTimeout),
  ("max_rounds", match c.maxRounds with | some n => .int n | none => .null),
  ("guide_path", match c.guide with | some p => .text p.toText | none => .null)]

end Redraft
