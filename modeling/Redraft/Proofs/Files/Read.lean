import Redraft.Files.Read
import Redraft.Proofs.Failure
import Redraft.Proofs.Files.Walk

/-!
What is found at a path and read there. A test for a file finds it, finds none, or cannot be made
because the path is too long for the system to look at.
-/
namespace Redraft.Files

variable {f : Files} {p : Path} {bytes : Bytes}

theorem named_eq_ok {α : Type} {x : Except FileError α} {a : α} :
    named p x = .ok a ↔ nameFault? p.toText = none ∧ x = .ok a := by
  rw [named]
  cases nameFault? p.toText with
  | some fault => simp
  | none => simp [mapError_eq_ok]

/-- A regular file is at a path, or a link that leads to one. -/
def HasFile (f : Files) (p : Path) (bytes : Bytes) : Prop :=
  nameFault? p.toText = none ∧ ∃ mode, f.stat p = .ok (.file bytes mode)

/-- The system does not look at a path because a name on the way, or the path, is too long. -/
def TooLong (f : Files) (p : Path) : Prop :=
  nameFault? p.toText = none ∧ f.stat p = .error .nameTooLong

theorem readBytes_eq_ok : f.readBytes p = .ok bytes ↔ f.HasFile p bytes := by
  rw [readBytes, named_eq_ok, HasFile]
  refine and_congr_right fun _ => ?_
  cases f.stat p with
  | error e => simp
  | ok n => cases n <;> simp

theorem readText_of_hasFile (h : f.HasFile p bytes) :
    f.readText p = decoded (Utf8.decode bytes) := by
  rw [readText, readBytes_eq_ok.2 h]
  rfl

theorem readLines_of_hasFile (h : f.HasFile p bytes) : f.readLines p =
    (decoded (Utf8.decodePieces pieceSize bytes)).map Text.readLines := by
  rw [readLines, readBytes_eq_ok.2 h]
  rfl

theorem isDirectory_of_hasFile (h : f.HasFile p bytes) : f.isDirectory p = .ok false := by
  obtain ⟨hname, mode, hstat⟩ := h
  rw [isDirectory, test, hname, hstat]
  rfl

theorem stat_fails (f : Files) (p : Path) :
    FailsWith (fun e => FileError.meansAbsent e = true ∨ e = .nameTooLong) (f.stat p) := by
  have hlocate : FailsWith (fun e => FileError.meansAbsent e = true ∨ e = .nameTooLong)
      (f.locate true p) := by
    rw [locate]
    split_ifs
    · exact .error (.inr rfl)
    · exact f.tree.walk_fails mostLinks (f.start p) p.names
  rw [stat]
  cases hl : f.locate true p with
  | error e => exact .error (hlocate e hl)
  | ok l =>
    dsimp only
    cases f.tree.node? l with
    | none => exact .error (.inl rfl)
    | some n => exact .ok n

theorem isFile_eq_true : f.isFile p = .ok true ↔ ∃ bytes, f.HasFile p bytes := by
  simp only [isFile, test, HasFile]
  cases nameFault? p.toText with
  | some fault => simp
  | none =>
    cases f.stat p with
    | error e => by_cases he : FileError.meansAbsent e <;> simp [he]
    | ok n => cases n <;> simp

theorem isFile_eq_error {e : Failure} :
    f.isFile p = .error e ↔ f.TooLong p ∧ e = .file .nameTooLong p.toText := by
  have hfails := f.stat_fails p
  simp only [isFile, test, TooLong]
  cases nameFault? p.toText with
  | some fault => simp
  | none =>
    cases hstat : f.stat p with
    | ok n => simp
    | error e' =>
      rcases hfails e' hstat with habsent | rfl
      · have hne : e' ≠ .nameTooLong := by
          rintro rfl
          cases habsent
        simp [habsent, hne]
      · simp [FileError.meansAbsent, eq_comm]

theorem isFile_eq_false :
    f.isFile p = .ok false ↔ (∀ bytes, ¬ f.HasFile p bytes) ∧ ¬ f.TooLong p := by
  rw [← not_exists, ← isFile_eq_true]
  cases h : f.isFile p with
  | ok found =>
    have hshort : ¬ f.TooLong p := fun hlong => by cases h.symm.trans (isFile_eq_error.2 ⟨hlong, rfl⟩)
    cases found <;> simp [hshort]
  | error e => simp [(isFile_eq_error.1 h).1]

end Redraft.Files
