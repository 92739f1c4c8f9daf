import Redraft.Proofs.Files.Read
import Redraft.Proofs.Source.Imports

/-!
The imports that a text declares and what loading them comes to. Either each is a file that is text, and
all of them are shown, or the first one that is not decides about the failure.
-/
namespace Redraft

/-- The files that a text declares, line by line: those that the marked lines name, without the ones
that are never loaded. -/
def Language.declared (lang : Language) (t : Text) : List Text :=
  let marked := (Text.split Text.newline t).filter lang.importMark.isPrefixOf
  let files := marked.map fun line =>
    Text.trim (line.drop lang.importMark.length) ++ lang.extension
  files.filter fun file => file ∉ lang.excluded

theorem Language.imports_eq_declared (lang : Language) (t : Text) :
    lang.imports t = lang.declared t := by
  rw [imports, declared, Text.lines]
  induction Text.split Text.newline t with
  | nil => rfl
  | cons line rest ih =>
    rw [List.filterMap_cons, ih, imported?, Text.dropStart?]
    cases hmark : lang.importMark.isPrefixOf line with
    | false => simp [hmark]
    | true =>
      by_cases hexcluded :
          Text.trim (line.drop lang.importMark.length) ++ lang.extension ∈ lang.excluded
      · simp [hmark, hexcluded]
      · simp [hmark, hexcluded]

namespace Source

open Files

variable {f : Files} {lang : Language} {importer : Path} {name block t : Text} {bytes : Bytes}

def importPath (importer : Path) (name : Text) : Path := importer.parent.resolveFrom (.ofText name)

def Shows (f : Files) (importer : Path) (name block : Text) : Prop :=
  ∃ bytes t, f.HasFile (importPath importer name) bytes ∧ Utf8.decode bytes = .ok t ∧
    block = (Block.file name (Text.trim (Text.unifyNewlines t)) none false).render

theorem importBlock_eq (f : Files) (importer : Path) (name : Text) : importBlock f importer name =
    f.isFile (importPath importer name) >>= fun found =>
      if found then (f.readText (importPath importer name)).map fun content =>
        (Block.file name (Text.trim content) none false).render
      else .error (.dependency name (importPath importer name) importer) := by
  rw [importBlock, importPath]
  cases f.isFile (importer.parent.resolveFrom (.ofText name)) with
  | error e => rfl
  | ok found => cases found <;> rfl

theorem importBlock_of_hasFile (h : f.HasFile (importPath importer name) bytes) :
    importBlock f importer name = (decoded (Utf8.decode bytes)).map fun content =>
      (Block.file name (Text.trim content) none false).render := by
  rw [importBlock_eq, isFile_eq_true.2 ⟨bytes, h⟩, readText_of_hasFile h]
  rfl

theorem importBlock_of_shows (h : Shows f importer name block) :
    importBlock f importer name = .ok block := by
  obtain ⟨bytes, t, hfile, ht, rfl⟩ := h
  rw [importBlock_of_hasFile hfile, ht]
  rfl

theorem importBlock_of_missing (h : ∀ bytes, ¬ f.HasFile (importPath importer name) bytes)
    (hshort : ¬ f.TooLong (importPath importer name)) :
    importBlock f importer name = .error (.dependency name (importPath importer name) importer) := by
  rw [importBlock_eq, isFile_eq_false.2 ⟨h, hshort⟩]
  rfl

theorem importBlock_of_tooLong (h : f.TooLong (importPath importer name)) :
    importBlock f importer name = .error (.file .nameTooLong (importPath importer name).toText) := by
  rw [importBlock_eq, isFile_eq_error.2 ⟨h, rfl⟩]
  rfl

theorem importBlocks_of_shows {blocks : List Text}
    (h : List.Forall₂ (Shows f importer) (lang.declared t) blocks) :
    importBlocks f lang importer t = .ok (Text.join "\n\n" blocks) := by
  rw [importBlocks, lang.imports_eq_declared,
    mapM_eq_ok_of_forall₂ (h.imp fun _ _ => importBlock_of_shows)]
  rfl

theorem importBlocks_of_first {before after : List Text} {e : Failure}
    (hnames : lang.declared t = before ++ name :: after)
    (hbefore : ∀ n ∈ before, ∃ block, Shows f importer n block)
    (he : importBlock f importer name = .error e) : importBlocks f lang importer t = .error e := by
  have hloaded : ∀ n ∈ before, ∃ block, importBlock f importer n = .ok block := by
    intro n hn
    obtain ⟨block, hblock⟩ := hbefore n hn
    exact ⟨block, importBlock_of_shows hblock⟩
  rw [importBlocks, lang.imports_eq_declared, hnames, mapM_eq_error_of_first hloaded he]
  rfl

theorem join_shows_eq_nil {blocks : List Text} {names : List Text}
    (h : List.Forall₂ (Shows f importer) names blocks) :
    Text.join "\n\n" blocks = [] ↔ names = [] := by
  have hblocks : Blocks f importer names blocks :=
    h.imp fun _ _ hshows => importBlock_eq_ok (importBlock_of_shows hshows)
  rw [Text.join_eq_nil hblocks.ne_nil]
  cases h <;> simp

/-- If every import that a text declares is a file that is text, loading gives their blocks, in order
and with blank lines between them, and nothing exactly if there are none. Otherwise the first that is
not decides, whatever comes after it: it is reported as missing if there is no file, unless its path
is too long for the system to look at, and as no text if there is one. -/
theorem imports_loaded (f : Files) (lang : Language) (importer : Path) (t : Text) :
    (∀ blocks, List.Forall₂ (Shows f importer) (lang.declared t) blocks →
      importBlocks f lang importer t = .ok (Text.join "\n\n" blocks) ∧
      (Text.join "\n\n" blocks = [] ↔ lang.declared t = [])) ∧
    ∀ before name after, lang.declared t = before ++ name :: after →
      (∀ n ∈ before, ∃ block, Shows f importer n block) →
      ((∀ bytes, ¬ f.HasFile (importPath importer name) bytes) →
        ¬ f.TooLong (importPath importer name) → importBlocks f lang importer t =
          .error (.dependency name (importPath importer name) importer)) ∧
      (f.TooLong (importPath importer name) → importBlocks f lang importer t =
        .error (.file .nameTooLong (importPath importer name).toText)) ∧
      ∀ bytes x, f.HasFile (importPath importer name) bytes → Utf8.decode bytes = .error x →
        importBlocks f lang importer t = .error (.undecodable x) := by
  refine ⟨fun blocks h => ⟨importBlocks_of_shows h, join_shows_eq_nil h⟩, ?_⟩
  intro before name after hnames hbefore
  refine ⟨fun hnone hshort => ?_, fun hlong => ?_, fun bytes x hfile hx => ?_⟩
  · exact importBlocks_of_first hnames hbefore (importBlock_of_missing hnone hshort)
  · exact importBlocks_of_first hnames hbefore (importBlock_of_tooLong hlong)
  · refine importBlocks_of_first hnames hbefore ?_
    rw [importBlock_of_hasFile hfile, hx]
    rfl

def beside : Files := ⟨⟨[
  (["a.sire"], .file (Utf8.encodeWith [] "\tx\r\n") 0o644),
  (["b.sire"], .file [0xFF] 0o644)]⟩, []⟩

def nowhere : Files := ⟨⟨[]⟩, []⟩

def importing : Path := ⟨.relative, ["f.sire"]⟩

theorem imports_loaded_beside :
    importBlocks beside {} importing ":| a\n:| sire\n:|  a " =
      .ok "<FILE path=\"a.sire\">\nx\n</FILE>\n\n<FILE path=\"a.sire\">\nx\n</FILE>" ∧
    importBlocks beside {} importing ":| a\n:| c\n:| b" =
      .error (.dependency "c.sire" ⟨.relative, ["c.sire"]⟩ importing) ∧
    importBlocks beside {} importing ":| b\n:| c" = .error (.undecodable ⟨0xFF, 0, 1, .badStart⟩) := by
  have ha : Shows beside importing "a.sire" "<FILE path=\"a.sire\">\nx\n</FILE>" :=
    ⟨_, _, ⟨rfl, _, rfl⟩, rfl, by decide +kernel⟩
  have hb : beside.HasFile (importPath importing "b.sire") [0xFF] := ⟨rfl, _, rfl⟩
  have hc : beside.stat (importPath importing "c.sire") = .error .notFound := rfl
  have hmissing : ∀ bytes, ¬ beside.HasFile (importPath importing "c.sire") bytes := by
    rintro bytes ⟨-, mode, hstat⟩
    cases hc.symm.trans hstat
  have hshort : ¬ beside.TooLong (importPath importing "c.sire") := by
    rintro ⟨-, hstat⟩
    cases hc.symm.trans hstat
  refine ⟨?_, ?_, ?_⟩
  · have htwice : Language.declared {} ":| a\n:| sire\n:|  a " = [Text.ofString "a.sire", "a.sire"] := by
      decide +kernel
    have hshows := List.Forall₂.cons ha (.cons ha .nil)
    rw [← htwice] at hshows
    exact ((imports_loaded beside {} importing _).1 _ hshows).1.trans (congrArg _ (by decide +kernel))
  · refine ((imports_loaded beside {} importing _).2 ["a.sire"] "c.sire" ["b.sire"] rfl ?_).1
      hmissing hshort
    intro n hn
    exact ⟨_, List.mem_singleton.1 hn ▸ ha⟩
  · exact ((imports_loaded beside {} importing _).2 [] "b.sire" ["c.sire"] rfl (by simp)).2.2 _ _
      hb rfl

def endless : Text := List.replicate 251 (.scalar 'a')

/-- There is no file with it, and the import is not reported as missing. -/
theorem imports_not_missing :
    Language.declared {} (Text.ofString ":| " ++ endless) = [endless ++ Text.ofString ".sire"] ∧
    (∀ bytes, ¬ nowhere.HasFile (importPath importing (endless ++ Text.ofString ".sire")) bytes) ∧
    importBlocks nowhere {} importing (Text.ofString ":| " ++ endless) =
      .error (.file .nameTooLong
        (importPath importing (endless ++ Text.ofString ".sire")).toText) := by
  have hdeclared : Language.declared {} (Text.ofString ":| " ++ endless) =
      [] ++ [endless ++ Text.ofString ".sire"] := by decide +kernel
  have hlong : nowhere.TooLong (importPath importing (endless ++ Text.ofString ".sire")) :=
    ⟨by decide +kernel, by decide +kernel⟩
  refine ⟨hdeclared, ?_, importBlocks_of_first hdeclared (by simp) (importBlock_of_tooLong hlong)⟩
  rintro bytes ⟨-, mode, hstat⟩
  cases hlong.2.symm.trans hstat

end Source

end Redraft
