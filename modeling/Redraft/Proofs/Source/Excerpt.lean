import Redraft.Proofs.Files.Failing
import Redraft.Proofs.Reply.Request
import Redraft.Source.Excerpt

/-!
What serving requests fails with. Requests that were accepted are named, so that only an operation on
files can fail.
-/
namespace Redraft.Source

open Failure (OfFiles)

variable (f : Files) (lang : Language)

theorem isSome_definitions? {names : List Text} (h : ∀ name ∈ names, name ≠ []) (t : Text) :
    (definitions? t names).isSome := by
  have hblocks : (names.mapM (blocks? t)).isSome := by
    induction names with
    | nil => rfl
    | cons name rest ih =>
      have hrest := ih fun n hn => h n (List.mem_cons_of_mem name hn)
      obtain ⟨found, hfound⟩ := Option.isSome_iff_exists.1 hrest
      cases name with
      | nil => exact absurd rfl (h [] List.mem_cons_self)
      | cons c more =>
        rw [List.mapM_cons, hfound]
        rfl
  rw [definitions?, Option.isSome_map]
  exact hblocks

theorem definitionsIn_fails (p : Path) {names : List Text} (hsome : names ≠ [])
    (hne : ∀ name ∈ names, name ≠ []) : FailsWith OfFiles (definitionsIn f p names) := by
  rw [definitionsIn, if_neg (by simpa using hsome)]
  refine (Files.readText_fails f p).bind fun t _ => ?_
  obtain ⟨found, hfound⟩ := Option.isSome_iff_exists.1 (isSome_definitions? hne t)
  rw [hfound]
  exact .ok found

theorem excerpt_fails (p : Path) {r : Request} (hr : r.Named) :
    FailsWith OfFiles (excerpt f lang p (r.definitions.getD []) r.mode) := by
  cases hmode : r.mode with
  | full =>
    refine (Files.test_fails f p _).bind fun isDir _ => ?_
    cases isDir with
    | true => exact Files.listing_fails f p
    | false => exact Files.readText_fails f p
  | exports => exact ((Files.readLines_fails f p).map _).map _
  | definitions =>
    refine definitionsIn_fails f p (hr.wanted hmode) ?_
    rintro name hname rfl
    exact absurd (hr.noBlank [] hname) (by decide)

theorem answer_fails (room : Nat) (base : Path) {r : Request} (hr : r.Named) :
    FailsWith OfFiles (answer room f lang base r) := by
  refine (Files.realPath_fails f _ room).bind fun p _ => ?_
  refine (Files.test_fails f p _).bind fun isDir _ => ?_
  cases isDir with
  | true => exact (Files.listing_fails f p).bind fun _ _ => .ok _
  | false => exact (excerpt_fails f lang p hr).bind fun _ _ => .ok _

theorem serve_fails (room : Nat) (base : Path) {rs : List Request} (hrs : ∀ r ∈ rs, r.Named) :
    FailsWith OfFiles (serve room f lang base rs) :=
  (FailsWith.mapM fun r hr => answer_fails f lang room base (hrs r hr)).bind fun _ _ => .ok _

end Redraft.Source
