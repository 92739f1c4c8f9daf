import Redraft.Text.Basic

/-!
Tagged blocks, the units of a prompt: an opening tag with attributes and flags, a body, and a
closing tag.
-/
namespace Redraft

structure Block where
  tag : Text
  body : Text
  attributes : List (Text × Text) := []
  flags : List Text := []

namespace Block

def assignment (key value : Text) : Text := key ++ Text.ofString "=\"" ++ value ++ Text.ofString "\""

def render (b : Block) : Text :=
  let parts := b.tag :: b.attributes.map (fun (k, v) => assignment k v) ++ b.flags
  Text.ofString "<" ++ Text.join " " parts ++ Text.ofString ">\n" ++ b.body
    ++ Text.ofString "\n</" ++ b.tag ++ Text.ofString ">"

def set (key value : Text) : List (Text × Text) → List (Text × Text)
  | [] => [(key, value)]
  | (k, v) :: rest => if k = key then (k, value) :: rest else (k, v) :: set key value rest

def file (path content : Text) (mode : Option Text) (current : Bool) : Block where
  tag := "FILE"
  body := content
  attributes := ("path", path) :: (mode.map fun m => ((Text.ofString "mode", m))).toList
  flags := if current then ["current"] else []

def directory (path listing : Text) : Block :=
  ⟨"DIR", listing, [("path", path)], []⟩

def request (t : Text) : Block := ⟨"REQUEST", t, [], []⟩

def check (diagnostics : Text) : Block := ⟨"CHECK", diagnostics, [], []⟩

end Block

end Redraft
