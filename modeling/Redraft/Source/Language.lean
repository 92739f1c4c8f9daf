import Redraft.Text.Newline

/-!
Conventions of a source language: how a line imports a module, how a line exports names, and which
modules are never loaded.
-/
namespace Redraft

structure Language where
  extension : Text := ".sire"
  importMark : Text := ":| "
  exportMark : Text := "^-^"
  excluded : List Text := ["sire.sire", "quickcheck.sire"]
  deriving DecidableEq

namespace Language

/-- Whether a line exports names: it starts with the mark, and what follows goes on to its end. -/
def isExport (lang : Language) (line : Text) : Bool :=
  match Text.dropStart? lang.exportMark line with
  | none => false
  | some rest =>
    let behind := rest.dropWhile (· ≠ Text.newline)
    behind = [] || behind = [Text.newline]

def imported? (lang : Language) (line : Text) : Option Text :=
  match Text.dropStart? lang.importMark line with
  | none => none
  | some name =>
    let file := Text.trim name ++ lang.extension
    if lang.excluded.contains file then none else some file

def imports (lang : Language) (t : Text) : List Text := (Text.lines t).filterMap lang.imported?

end Language

end Redraft
