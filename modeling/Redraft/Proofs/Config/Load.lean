import Redraft.Config.Load
import Redraft.Proofs.Files.Failing

/-! What finding and loading a configuration fails with. -/
namespace Redraft.Config

open Failure (OfFiles)

variable (room : Nat) (f : Files) (p : Path)

theorem find_fails : FailsWith OfFiles (find f p) := by
  refine (Files.test_fails f _ _).bind fun isBeside _ => ?_
  cases isBeside with
  | true => exact .ok _
  | false =>
    refine (Files.test_fails f _ _).bind fun isHere _ => ?_
    cases isHere with
    | true => exact .ok _
    | false => exact .ok _

theorem load_fails : FailsWith
    (fun e => (∃ error, e = .config error) ∨ e = .configMissing p ∨ OfFiles e)
      (load room f p) := by
  refine ((Files.test_fails f _ _).mono fun e he => .inr (.inr he)).bind fun isThere _ => ?_
  cases isThere with
  | false => exact .error (.inr (.inl rfl))
  | true =>
    refine ((Files.readText_fails f p).mono fun e he => .inr (.inr he)).bind fun t _ => ?_
    cases ofYaml room t with
    | ok c => exact .ok _
    | error e => exact .error (.inl ⟨e, rfl⟩)

end Redraft.Config
