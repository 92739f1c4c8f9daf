import Redraft.Proofs.Files.Failing
import Redraft.Proofs.Prompt.Input
import Redraft.Source.Imports

/-!
What loading imports gives. Each is loaded by itself; together they give their blocks, or they fail
with the first that does.
-/
namespace Redraft.Source

open Failure (OfFiles)

variable (f : Files) (lang : Language) (importer : Path)

/-- What loading an import gives: the text of a file beside the importer without the blanks around it,
or why there is none. -/
inductive Loads (name : Text) : Except Failure Text → Prop
  | untested {e : Failure} (h : f.isFile (importer.parent.resolveFrom (.ofText name)) = .error e) :
      Loads name (.error e)
  | missing (h : f.isFile (importer.parent.resolveFrom (.ofText name)) = .ok false) :
      Loads name (.error
        (.dependency name (importer.parent.resolveFrom (.ofText name)) importer))
  | unread {e : Failure} (h : f.isFile (importer.parent.resolveFrom (.ofText name)) = .ok true)
      (hread : f.readText (importer.parent.resolveFrom (.ofText name)) = .error e) :
      Loads name (.error e)
  | loaded {content : Text} (h : f.isFile (importer.parent.resolveFrom (.ofText name)) = .ok true)
      (hread : f.readText (importer.parent.resolveFrom (.ofText name)) = .ok content) :
      Loads name (.ok (Text.trim content))

def Blocks : List Text → List Text → Prop := List.Forall₂ fun name block =>
  ∃ t, Loads f importer name (.ok t) ∧ block = (Block.file name t none false).render

variable {f lang importer}

theorem Blocks.ne_nil {names blocks : List Text} (h : Blocks f importer names blocks) :
    ∀ b ∈ blocks, b ≠ [] := by
  induction h with
  | nil => simp
  | cons hblock _ ih =>
    obtain ⟨t, -, rfl⟩ := hblock
    exact List.forall_mem_cons.2 ⟨Block.render_ne_nil _, ih⟩

theorem importBlock_eq_ok {name block : Text} (h : importBlock f importer name = .ok block) :
    ∃ t, Loads f importer name (.ok t) ∧ block = (Block.file name t none false).render := by
  obtain ⟨isFile, hfile, h⟩ := bind_eq_ok.1 h
  cases isFile with
  | false => cases h
  | true =>
    obtain ⟨content, hread, h⟩ := bind_eq_ok.1 h
    cases h
    exact ⟨_, .loaded hfile hread, rfl⟩

theorem importBlock_eq_error {name : Text} {e : Failure}
    (h : importBlock f importer name = .error e) : Loads f importer name (.error e) := by
  rcases bind_eq_error.1 h with h | ⟨isFile, hfile, h⟩
  · exact .untested h
  · cases isFile with
    | false =>
      cases h
      exact .missing hfile
    | true =>
      rcases bind_eq_error.1 h with h | ⟨content, -, h⟩
      · exact .unread hfile h
      · cases h

theorem importBlocks_eq_ok {t imports : Text} (h : importBlocks f lang importer t = .ok imports) :
    ∃ blocks, Blocks f importer (lang.imports t) blocks ∧ imports = Text.join "\n\n" blocks := by
  obtain ⟨blocks, hblocks, h⟩ := bind_eq_ok.1 h
  cases h
  exact ⟨blocks, (forall₂_of_mapM_eq_ok hblocks).imp fun _ _ => importBlock_eq_ok, rfl⟩

theorem importBlocks_eq_error {t : Text} {e : Failure} (h : importBlocks f lang importer t = .error e) :
    ∃ before name after, lang.imports t = before ++ name :: after ∧
      (∀ n ∈ before, ∃ t, Loads f importer n (.ok t)) ∧ Loads f importer name (.error e) := by
  rcases bind_eq_error.1 h with h | ⟨blocks, -, h⟩
  · obtain ⟨before, name, after, himports, hbefore, hname⟩ := split_of_mapM_eq_error h
    refine ⟨before, name, after, himports, fun n hn => ?_, importBlock_eq_error hname⟩
    obtain ⟨block, hblock⟩ := hbefore n hn
    obtain ⟨t, ht, -⟩ := importBlock_eq_ok hblock
    exact ⟨t, ht⟩
  · cases h

variable (f lang importer)

theorem importBlock_fails (name : Text) : FailsWith
    (fun e => (∃ p, e = .dependency name p importer) ∨ OfFiles e) (importBlock f importer name) := by
  refine ((Files.test_fails f _ _).mono fun e he => .inr he).bind fun isFile _ => ?_
  cases isFile with
  | true => exact ((Files.readText_fails f _).bind fun _ _ => .ok _).mono fun e he => .inr he
  | false => exact .error (.inl ⟨_, rfl⟩)

theorem importBlocks_fails (t : Text) : FailsWith
    (fun e => (∃ name p, e = .dependency name p importer) ∨ OfFiles e)
    (importBlocks f lang importer t) := by
  refine FailsWith.bind (FailsWith.mapM fun name _ => ?_) fun _ _ => .ok _
  refine (importBlock_fails f importer name).mono fun e he => ?_
  exact he.imp_left fun ⟨p, hp⟩ => ⟨name, p, hp⟩

end Redraft.Source
