import Mathlib.Tactic.SplitIfs
import Redraft.Files.Read
import Redraft.Files.Write
import Redraft.Proofs.Failure

/-!
What operations on files fail with: the file system refuses, a text cannot be the name of anything,
a content cannot be encoded or decoded, or a link leads to itself or through more links than there is
room for. Nothing else.
-/
namespace Redraft

/-- What operations on files fail with. -/
inductive Failure.OfFiles : Failure → Prop
  | file (error : FileError) (path : Text) : OfFiles (.file error path)
  | write (error : FileError) : OfFiles (.write error)
  | nulInPath : OfFiles .nulInPath
  | unencodable (fault : Utf8.Unencodable) : OfFiles (.unencodable fault)
  | undecodable (fault : Utf8.Fault) : OfFiles (.undecodable fault)
  | linkLoop (path : Text) : OfFiles (.linkLoop path)
  | linkDepth : OfFiles .linkDepth

open Failure (OfFiles)

theorem ofFiles_of_nameFault? {t : Text} {e : Failure} (h : nameFault? t = some e) : OfFiles e := by
  unfold nameFault? at h
  split_ifs at h
  · cases h
    exact .unencodable _
  · cases h
    exact .nulInPath

namespace Files

variable (f : Files) (p : Path)

theorem named_fails {α : Type} (x : Except FileError α) : FailsWith OfFiles (named p x) := by
  unfold named
  cases hfault : nameFault? p.toText with
  | some fault => exact .error (ofFiles_of_nameFault? hfault)
  | none => exact .mapError fun e _ => .file e p.toText

theorem decoded_fails (x : Except Utf8.Fault Text) : FailsWith OfFiles (decoded x) := by
  cases x with
  | ok t => exact .ok _
  | error fault => exact .error (.undecodable fault)

theorem readText_fails : FailsWith OfFiles (f.readText p) :=
  (named_fails p _).bind fun _ _ => decoded_fails _

theorem readLines_fails : FailsWith OfFiles (f.readLines p) :=
  (named_fails p _).bind fun _ _ => (decoded_fails _).bind fun _ _ => .ok _

theorem listing_fails : FailsWith OfFiles (f.listing p) := (named_fails p _).map _

theorem test_fails (kind : Node → Bool) : FailsWith OfFiles (f.test kind p) := by
  unfold test
  split_ifs with hname
  · exact .ok false
  · cases f.stat p with
    | ok n => exact .ok (kind n)
    | error e =>
      dsimp only
      split_ifs
      · exact .ok false
      · exact .error (.file e p.toText)

theorem resolveNames_fails {inner : Path → Text → List (Path × Option Path) → Except Failure Resolution}
    (hinner : ∀ path t seen, FailsWith OfFiles (inner path t seen)) (names : List Text)
    (path : Path) (seen : List (Path × Option Path)) :
    FailsWith OfFiles (resolveNames f inner path seen names) := by
  fun_induction resolveNames f inner path seen names with
  | case1 path seen => exact .ok _
  | case2 path seen name rest hskip ih => exact ih
  | case3 path seen rest hskip ih => exact ih
  | case4 path seen name rest hskip hup next fault hfault => exact .error (ofFiles_of_nameFault? hfault)
  | case5 path seen name rest hskip hup next hfault hfree ih => exact ih
  | case6 path seen name rest hskip hup next hfault target htarget known hknown ih => exact ih
  | case7 path seen name rest hskip hup next hfault target htarget hopen => exact .ok _
  | case8 path seen name rest hskip hup next hfault target htarget hnew e hinnerFails =>
    exact .error (hinner _ _ _ e hinnerFails)
  | case9 path seen name rest hskip hup next hfault target htarget hnew r hr hcomplete ih => exact ih
  | case10 path seen name rest hskip hup next hfault target htarget hnew r hr hcut => exact .ok _

theorem resolveText_fails (room : Nat) (path : Path) (t : Text) (seen : List (Path × Option Path)) :
    FailsWith OfFiles (f.resolveText room path t seen) := by
  induction room generalizing path t seen with
  | zero => exact .error .linkDepth
  | succ room ih => exact resolveNames_fails f ih _ _ seen

theorem realPath_fails (room : Nat) : FailsWith OfFiles (f.realPath room p) := by
  refine (resolveText_fails f _ _ _ _).bind fun r _ => ?_
  dsimp only
  split
  · exact .error (.linkLoop _)
  · exact .ok _

theorem permit_fails (x : Option FileError) : FailsWith OfFiles (permit x) := by
  cases x with
  | none => exact .ok ()
  | some e => exact .error (.write e)

theorem settleMode_fails (r : Refusals) : FailsWith OfFiles (settleMode r f p) := by
  refine (permit_fails _).bind fun _ _ => FailsWith.bind ?_ fun mode _ => ?_
  · refine (test_fails f p _).bind fun found _ => ?_
    split_ifs
    · split <;> exact .ok _
    · exact .ok _
  · refine (test_fails f p _).bind fun found _ => ?_
    cases found with
    | false => exact .ok mode
    | true => exact (permit_fails _).bind fun _ _ => .ok mode

theorem takePlace_fails (r : Refusals) (temporary : Location) :
    FailsWith OfFiles (takePlace r f temporary p) := by
  refine (permit_fails _).bind fun _ _ => FailsWith.bind ?_ fun _ _ => ?_
  · unfold nameable
    cases hfault : nameFault? p.toText with
    | some fault => exact .error (ofFiles_of_nameFault? hfault)
    | none => exact .ok ()
  · refine FailsWith.bind (.mapError fun e _ => .write e) fun target _ => ?_
    exact .mapError fun e _ => .write e

theorem fillAndMove_fails (r : Refusals) (temporary : Location) (content : Text) :
    FailsWith OfFiles (fillAndMove r f temporary p content).1 := by
  unfold fillAndMove
  cases Utf8.encode content with
  | error fault => exact .error (.unencodable fault)
  | ok bytes =>
    cases r.step .fill with
    | some e => exact .error (.write e)
    | none =>
      dsimp only
      cases hmode : settleMode r f p with
      | error e => exact .error (settleMode_fails f p r e hmode)
      | ok mode =>
        dsimp only
        cases hmove : takePlace r ⟨f.tree.put temporary (.file bytes mode), f.cwd⟩ temporary p with
        | error e => exact .error (takePlace_fails _ p r temporary e hmove)
        | ok t => exact .ok ()

theorem writeAtomicUnless_fails (r : Refusals) (content : Text) :
    FailsWith OfFiles (f.writeAtomicUnless r p content).1 := by
  unfold writeAtomicUnless
  dsimp only
  cases hfault : nameFault? ((f.absolute p.parent).child p.name).toText with
  | some fault => exact .error (ofFiles_of_nameFault? hfault)
  | none =>
    dsimp only
    split
    · next e hmade =>
      refine .error (FailsWith.bind (permit_fails _) (fun _ _ => ?_) e hmade)
      exact .mapError fun e _ => .write e
    · cases hmove : fillAndMove r ⟨_, f.cwd⟩ _ p content with
      | mk x t =>
        cases x with
        | ok _ => exact .ok ()
        | error e => exact .error (fillAndMove_fails _ p r _ content e (congrArg Prod.fst hmove))

end Files

end Redraft
