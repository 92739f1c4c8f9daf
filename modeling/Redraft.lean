import Redraft.Agent.Basic
import Redraft.Agent.Claude
import Redraft.Checker
import Redraft.Command
import Redraft.CommandLine.Arguments
import Redraft.CommandLine.Run
import Redraft.Config.Basic
import Redraft.Config.Load
import Redraft.Config.Read
import Redraft.Config.Write
import Redraft.Data
import Redraft.Decimal.Shortest
import Redraft.Failure
import Redraft.Files.Read
import Redraft.Files.Real
import Redraft.Files.Tree
import Redraft.Files.Walk
import Redraft.Files.Write
import Redraft.Host.Basic
import Redraft.Host.Playback
import Redraft.Host.System
import Redraft.Json.Decode
import Redraft.Json.Encode
import Redraft.Main
import Redraft.Path
import Redraft.Prompt.Block
import Redraft.Prompt.Input
import Redraft.Prompt.System
import Redraft.Proofs.Agent.Claude
import Redraft.Proofs.Checker
import Redraft.Proofs.CommandLine.Reports
import Redraft.Proofs.Config.Load
import Redraft.Proofs.Failure
import Redraft.Proofs.Files.Entry
import Redraft.Proofs.Files.Failing
import Redraft.Proofs.Files.Tree
import Redraft.Proofs.Files.Walk
import Redraft.Proofs.Files.Write
import Redraft.Proofs.Host
import Redraft.Proofs.Prompt.Input
import Redraft.Proofs.Prompt.System
import Redraft.Proofs.Reply.Limit
import Redraft.Proofs.Reply.Request
import Redraft.Proofs.Reply.Tag
import Redraft.Proofs.Reply.Turn
import Redraft.Proofs.Session.Accounts
import Redraft.Proofs.Session.Checks
import Redraft.Proofs.Session.Effect
import Redraft.Proofs.Session.Ending
import Redraft.Proofs.Session.Exchanges
import Redraft.Proofs.Session.ExtraRequest
import Redraft.Proofs.Session.FailedCall
import Redraft.Proofs.Session.Failing
import Redraft.Proofs.Session.History
import Redraft.Proofs.Session.Limit
import Redraft.Proofs.Session.Observed
import Redraft.Proofs.Session.Prompts
import Redraft.Proofs.Session.Quiet
import Redraft.Proofs.Session.Related
import Redraft.Proofs.Session.Rounds
import Redraft.Proofs.Session.Scripted
import Redraft.Proofs.Session.Start
import Redraft.Proofs.Session.Target
import Redraft.Proofs.Session.Trace
import Redraft.Proofs.Source.Binding
import Redraft.Proofs.Source.Block
import Redraft.Proofs.Source.Cursor
import Redraft.Proofs.Source.Excerpt
import Redraft.Proofs.Source.Imports
import Redraft.Proofs.Source.Paragraphs
import Redraft.Proofs.Template.Plain
import Redraft.Proofs.Text.Blank
import Redraft.Proofs.Text.CodePoint
import Redraft.Proofs.Text.Hexadecimal
import Redraft.Proofs.Text.Occurrence
import Redraft.Proofs.Text.Utf8
import Redraft.Reply.Request
import Redraft.Reply.Tag
import Redraft.Reply.Turn
import Redraft.Schema
import Redraft.Session.Basic
import Redraft.Session.Start
import Redraft.Shell.Builtin
import Redraft.Shell.Condition
import Redraft.Shell.Field
import Redraft.Shell.Grammar
import Redraft.Shell.Machine
import Redraft.Shell.Names
import Redraft.Shell.Options
import Redraft.Shell.Pattern
import Redraft.Shell.Print
import Redraft.Shell.Process
import Redraft.Shell.Program
import Redraft.Shell.Run
import Redraft.Shell.Script
import Redraft.Shell.Signal
import Redraft.Shell.Source
import Redraft.Shell.Sum
import Redraft.Source.Cursor
import Redraft.Source.Definitions
import Redraft.Source.Excerpt
import Redraft.Source.Imports
import Redraft.Source.Language
import Redraft.Template.Basic
import Redraft.Template.Expression
import Redraft.Template.Load
import Redraft.Template.Token
import Redraft.Text.Basic
import Redraft.Text.Blank
import Redraft.Text.Case
import Redraft.Text.Digit
import Redraft.Text.Escape
import Redraft.Text.Identifier
import Redraft.Text.Keyed
import Redraft.Text.Lower
import Redraft.Text.Name
import Redraft.Text.Newline
import Redraft.Text.Printable
import Redraft.Text.Quoted
import Redraft.Text.Utf8
import Redraft.Text.Word
import Redraft.Yaml.Moment
import Redraft.Yaml.Node
import Redraft.Yaml.Number
import Redraft.Yaml.Scalar
import Redraft.Yaml.Stream
import Redraft.Yaml.Token
import Redraft.Yaml.Value
import Redraft.Proofs.Files.Atomic
import Redraft.Proofs.Source.Lines
import Redraft.Proofs.Source.Plain
import Redraft.Proofs.Text.Split
import Redraft.Proofs.Text.Keyed
import Redraft.Proofs.Path
import Redraft.Proofs.Schema
import Redraft.Proofs.Config.WellFormed
import Redraft.Proofs.Config.Reread
import Redraft.Proofs.Text.Newline
import Redraft.Proofs.Session.Echo
import Redraft.Proofs.Source.BlockLines
import Redraft.Proofs.Json.Decode
import Redraft.Proofs.Source.Extraction
import Redraft.Proofs.Files.Real
import Redraft.Proofs.Reply.Payload
import Redraft.Proofs.Source.Answer
import Redraft.Proofs.Config.Reached
import Redraft.Proofs.Files.Read
import Redraft.Proofs.Source.Exports
import Redraft.Proofs.Source.Declared
import Redraft.Proofs.Json.Scalar
import Redraft.Proofs.Json.Extent
import Redraft.Proofs.Reply.Margin
import Redraft.Proofs.Agent.Transport
import Redraft.Proofs.Prompt.Guide
