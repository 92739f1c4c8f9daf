import Redraft.Path
import Redraft.Reply.Turn

/-!
Why a run fails. Every cause is a constructor; the wording is in one function, which leaves the
wording of detailed issues to its caller.
-/
namespace Redraft

/-- How much room is left on the stack, by what takes it: collections in collections of a JSON text
and of a YAML text, and links on the way to the end of a link. -/
structure Room where
  json : Nat
  yaml : Nat
  links : Nat

/-- What the file system refuses with. -/
inductive FileError where
  | notFound
  | badFormat
  | permissionDenied
  | busy
  | notDirectory
  | isDirectory
  | noSpace
  | nameTooLong
  | tooManyLinks
  deriving DecidableEq

namespace FileError

def number : FileError → Nat
  | notFound => 2
  | badFormat => 8
  | permissionDenied => 13
  | busy => 16
  | notDirectory => 20
  | isDirectory => 21
  | noSpace => 28
  | nameTooLong => 36
  | tooManyLinks => 40

def description : FileError → String
  | notFound => "No such file or directory"
  | badFormat => "Exec format error"
  | permissionDenied => "Permission denied"
  | busy => "Device or resource busy"
  | notDirectory => "Not a directory"
  | isDirectory => "Is a directory"
  | noSpace => "No space left on device"
  | nameTooLong => "File name too long"
  | tooManyLinks => "Too many levels of symbolic links"

def message (e : FileError) (path : Text) : Text :=
  Text.ofString "[Errno " ++ Text.ofNat e.number ++ Text.ofString "] "
    ++ Text.ofString e.description ++ Text.ofString ": " ++ Text.quoted path

end FileError

/-- Why a configuration text is no configuration. -/
inductive ConfigError where
  | malformed
  | badScalar (reason : Text)
  | hugeEscape
  /-- A number in the base of sixty with more places than a floating-point number can weigh. -/
  | hugeNumber
  | emptyNumber
  | unknownTruth (word : Text)
  | notMoment
  | momentOfMapping
  /-- A mapping that names itself as its value. -/
  | endless
  | tooDeep
  | notMapping
  | issues (list : List Issue)
  | undecodable (fault : Utf8.Fault)
  deriving DecidableEq

/-- Why a command gave no result. -/
inductive CommandError where
  | notStarted (reason : Text)
  | timedOut (reason : Text)
  deriving DecidableEq

namespace CommandError

def message : CommandError → Text
  | notStarted reason => reason
  | timedOut reason => reason

end CommandError

/-- Why an agent gave no reply. -/
inductive AgentError where
  | scriptExhausted
  | command (error : CommandError)
  | refused (returncode : Int) (detail : Text)

/-- Why a template has no rendering. -/
inductive TemplateError where
  | undefined (name : Text)
  | malformed (reason : Text)
  /-- An expression that takes more than texts and truths. -/
  | beyond
  | notFound (name searched : Text)
  | outside (name : Text)

inductive Failure where
  | file (error : FileError) (path : Text)
  /-- A step of an atomic write, which would name the temporary file. -/
  | write (error : FileError)
  | nulInPath
  | unencodable (fault : Utf8.Unencodable)
  | undecodable (fault : Utf8.Fault)
  | linkLoop (path : Text)
  | linkDepth
  | unknownMode (mode : Text)
  | noNames
  | emptyName
  | configMissing (path : Path)
  | config (error : ConfigError)
  | invalidConfig (path : Path) (error : ConfigError)
  | reply (error : ReplyError)
  | dependency (name : Text) (path importer : Path)
  | agent (error : AgentError)
  | roundLimit (limit rounds : Nat)
  | command (error : CommandError)
  | emptyCommand
  | longTime (reason : Text)
  | template (error : TemplateError)
  | json (failure : Json.Failure)

/-- What is reported in detail: issues of a document, or a text that is not well formed. -/
inductive Detail where
  | issues (list : List Issue)
  | malformed

def byteText (b : UInt8) : Text := Text.ofString "0x" ++ Text.hex 2 b.toNat

def rangeText (start length : Nat) : Text :=
  if length ≤ 1 then Text.ofNat start
  else Text.ofNat start ++ Text.ofString "-" ++ Text.ofNat (start + length - 1)

namespace Utf8

def Reason.message : Reason → String
  | badStart => "invalid start byte"
  | badContinuation => "invalid continuation byte"
  | truncated => "unexpected end of data"

def Fault.message (f : Fault) : Text :=
  Text.ofString "'utf-8' codec can't decode "
    ++ (if f.length ≤ 1 then Text.ofString "byte " ++ byteText f.first else Text.ofString "bytes")
    ++ Text.ofString " in position " ++ rangeText f.position f.length
    ++ Text.ofString ": " ++ Text.ofString f.reason.message

def Unencodable.message (u : Unencodable) : Text :=
  Text.ofString "'utf-8' codec can't encode "
    ++ (if u.length ≤ 1 then Text.ofString "character '" ++ Text.escape '\'' u.first ++ Text.ofString "'"
        else Text.ofString "characters")
    ++ Text.ofString " in position " ++ rangeText u.position u.length
    ++ Text.ofString ": surrogates not allowed"

end Utf8

namespace ConfigError

def detail? : ConfigError → Option Detail
  | malformed => some .malformed
  | issues list => some (.issues list)
  | _ => none

def message (wording : Detail → Text) : ConfigError → Text
  | malformed => Text.ofString "Invalid YAML: " ++ wording .malformed
  | badScalar reason => reason
  | hugeEscape => "Python int too large to convert to C int"
  | hugeNumber => "int too large to convert to float"
  | emptyNumber => "string index out of range"
  | unknownTruth word => Text.quoted word
  | notMoment => "'NoneType' object has no attribute 'groupdict'"
  | momentOfMapping => "expected string or bytes-like object, got 'list'"
  | endless => "maximum recursion depth exceeded"
  | tooDeep => "maximum recursion depth exceeded while calling a Python object"
  | notMapping => "Config YAML must be a mapping"
  | issues list => wording (.issues list)
  | undecodable fault => fault.message

end ConfigError

namespace AgentError

def message : AgentError → Text
  | scriptExhausted => "Fake agent has no scripted reply left"
  | command error => error.message
  | refused returncode detail =>
    Text.ofString "Claude Code failed (exit code " ++ Text.ofInt returncode
      ++ Text.ofString "): " ++ detail

end AgentError

namespace TemplateError

def message : TemplateError → Text
  | undefined name => Text.quoted name ++ Text.ofString " is undefined"
  | malformed reason => reason
  | beyond => "the expression has no value"
  | notFound name searched =>
    Text.quoted name ++ Text.ofString " not found in search path: " ++ Text.quoted searched
  | outside name => name

end TemplateError

namespace Failure

def detail? : Failure → Option Detail
  | config error => error.detail?
  | invalidConfig _ error => error.detail?
  | reply (.notRequests _ list) => some (.issues list)
  | _ => none

/-- The wording of a failure; a failed write would name its temporary file and has none. -/
def message? (wording : Detail → Text) : Failure → Option Text
  | file error path => some (error.message path)
  | write _ => none
  | nulInPath => some "embedded null byte"
  | unencodable fault => some fault.message
  | undecodable fault => some fault.message
  | linkLoop path => some (Text.ofString "Symlink loop from " ++ Text.quoted path)
  | linkDepth => some "maximum recursion depth exceeded"
  | unknownMode mode => some (Text.quoted mode ++ Text.ofString " is not a valid ContextMode")
  | noNames => some "definitions mode requires at least one name"
  | emptyName => some "string index out of range"
  | configMissing path => some (Text.ofString "Config file not found: " ++ path.toText)
  | config error => some (error.message wording)
  | invalidConfig path error =>
    some (Text.ofString "Invalid config " ++ path.toText ++ Text.ofString ": "
      ++ error.message wording)
  | reply error => some (error.message (fun list => wording (.issues list)))
  | dependency name _ importer =>
    some (Text.ofString "Dependency not found: " ++ name ++ Text.ofString " (imported by "
      ++ importer.toText ++ Text.ofString ")")
  | agent error => some error.message
  | roundLimit limit _ =>
    some (Text.ofString "Session exceeded " ++ Text.ofNat limit ++ Text.ofString " agent rounds")
  | command error => some error.message
  | emptyCommand => some "list index out of range"
  | longTime reason => some reason
  | template error => some error.message
  | json failure => some (failure.message [])

/-- Whether a failure is told as a fault of the text that is read. -/
def isPlain : Failure → Bool
  | config .hugeEscape => false
  | config .hugeNumber => false
  | config .emptyNumber => false
  | config (.unknownTruth _) => false
  | config .notMoment => false
  | config .momentOfMapping => false
  | config .endless => false
  | config .tooDeep => false
  | config _ => true
  | _ => false

/-- Whether a failure is one that the command line reports; any other ends the program. -/
def isReported : Failure → Bool
  | file .. => true
  | write _ => true
  | undecodable _ => true
  | configMissing _ => true
  | invalidConfig .. => true
  | reply (.notJson _ (.longInteger _)) => false
  | reply (.notJson _ (.tooDeep _)) => false
  | reply _ => true
  | dependency .. => true
  | agent _ => true
  | roundLimit .. => true
  | command _ => true
  | template (.notFound ..) => true
  | template (.outside _) => true
  | _ => false

end Failure

end Redraft
