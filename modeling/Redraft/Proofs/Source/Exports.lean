import Redraft.Proofs.Files.Read
import Redraft.Proofs.Text.Newline
import Redraft.Proofs.Text.Occurrence
import Redraft.Proofs.Text.Utf8
import Redraft.Source.Excerpt

/-!
Exports and the whole file. The file is read line by line for its exports, and at once to show the
whole; its exports are the lines of the whole that start with the mark.
-/
namespace Redraft

theorem Language.isExport_eq {line : Text} (lang : Language) (h : Text.newline ∉ line) :
    lang.isExport line = lang.exportMark.isPrefixOf line := by
  unfold isExport
  cases hmark : Text.dropStart? lang.exportMark line with
  | none =>
    have hno := mt List.isPrefixOf_iff_prefix.1 (Text.dropStart?_eq_none.1 hmark)
    rw [Bool.not_eq_true] at hno
    rw [hno]
  | some rest =>
    obtain rfl := Text.dropStart?_eq_some.1 hmark
    have hyes := List.isPrefixOf_iff_prefix.2 (List.prefix_append lang.exportMark rest)
    have hrest : rest.dropWhile (· ≠ Text.newline) = [] := by
      rw [List.dropWhile_eq_nil_iff]
      intro c hc
      rw [decide_eq_true_eq]
      rintro rfl
      exact h (List.mem_append_right _ hc)
    dsimp only
    rw [hyes, hrest]
    rfl

namespace Source

open Files Text

variable {f : Files} {p : Path} {bytes : Bytes} {names : List Text} {t : Text}

theorem excerpt_full (lang : Language) (h : f.HasFile p bytes) :
    excerpt f lang p names .full = decoded (Utf8.decode bytes) := by
  rw [excerpt, isDirectory_of_hasFile h, ← readText_of_hasFile h]
  rfl

theorem excerpt_exports (lang : Language) (h : f.HasFile p bytes)
    (ht : Utf8.decode bytes = .ok t) : excerpt f lang p names .exports =
      .ok (join [newline] ((endedLines (unifyNewlines t)).filter lang.exportMark.isPrefixOf)) := by
  have hread : f.readLines p = .ok (readLines (unifyNewlines t)) := by
    rw [readLines_of_hasFile h, (Utf8.decodePieces_eq_ok pieceSize).2 ht]
    rfl
  have hfilter : (endedLines (unifyNewlines t)).filter lang.isExport =
      (endedLines (unifyNewlines t)).filter lang.exportMark.isPrefixOf :=
    List.filter_congr fun line hline => lang.isExport_eq (newline_notMem_endedLines _ line hline)
  rw [excerpt, exportLines, hread, ← hfilter, ← map_trimLineEnd_readLines (cr_notMem_unifyNewlines t)]
  rfl

theorem excerpt_exports_fails (lang : Language) (h : f.HasFile p bytes) {x : Utf8.Fault}
    (hx : Utf8.decode bytes = .error x) : ∃ y, y.unplaced = x.unplaced ∧
      excerpt f lang p names .exports = .error (.undecodable y) := by
  obtain ⟨y, hy, hsame⟩ := Utf8.exists_decodePieces_eq_error pieceSize hx
  refine ⟨y, hsame, ?_⟩
  have hread : f.readLines p = .error (.undecodable y) := by
    rw [readLines_of_hasFile h, hy]
    rfl
  rw [excerpt, exportLines, hread]
  rfl

/-- The exports of a file are the lines of the whole file that start with the mark, in their order,
however its lines end. Of a file that is no text neither is shown. -/
theorem exports_filter_full (f : Files) (lang : Language) (p : Path) (names names' : List Text)
    {bytes : Bytes} (h : f.HasFile p bytes) :
    (∀ t, Utf8.decode bytes = .ok t → ∃ whole, excerpt f lang p names .full = .ok whole ∧
      excerpt f lang p names' .exports =
        .ok (join "\n" ((endedLines whole).filter lang.exportMark.isPrefixOf))) ∧
    (∀ x, Utf8.decode bytes = .error x → excerpt f lang p names .full = .error (.undecodable x) ∧
      ∃ y, y.unplaced = x.unplaced ∧
        excerpt f lang p names' .exports = .error (.undecodable y)) := by
  refine ⟨fun t ht => ⟨unifyNewlines t, ?_, excerpt_exports lang h ht⟩, fun x hx => ⟨?_, ?_⟩⟩
  · rw [excerpt_full lang h, ht]
    rfl
  · rw [excerpt_full lang h, hx]
    rfl
  · exact excerpt_exports_fails lang h hx

/-- A file with three kinds of line end, a separator inside a line and no newline at the end, and one
that is no text. -/
def mixed : Files := ⟨⟨[
  (["m"], .file (Utf8.encodeWith [] "^-^ a\r\nb\r^-^ c\u2028d\n ^-^\n\n^-^") 0o644),
  (["n"], .file [0x5E, 0xFF] 0o644)]⟩, []⟩

theorem exports_filter_full_mixed :
    (∃ bytes, mixed.HasFile ⟨.relative, ["m"]⟩ bytes ∧
      excerpt mixed {} ⟨.relative, ["m"]⟩ [] .exports =
        .ok (Text.ofString "^-^ a\n^-^ c\u2028d\n^-^")) ∧
    (∃ bytes, mixed.HasFile ⟨.relative, ["n"]⟩ bytes ∧
      excerpt mixed {} ⟨.relative, ["n"]⟩ [] .full =
        .error (.undecodable ⟨0xFF, 1, 1, .badStart⟩)) := by
  have hm : mixed.HasFile ⟨.relative, ["m"]⟩ _ := ⟨rfl, _, rfl⟩
  have hn : mixed.HasFile ⟨.relative, ["n"]⟩ _ := ⟨rfl, _, rfl⟩
  have hdecode := Utf8.decode_encode (t := "^-^ a\r\nb\r^-^ c\u2028d\n ^-^\n\n^-^") rfl
  obtain ⟨whole, hwhole, hexports⟩ := (exports_filter_full mixed {} _ [] [] hm).1 _ hdecode
  rw [excerpt_full {} hm, hdecode] at hwhole
  cases hwhole
  exact ⟨⟨_, hm, hexports.trans (congrArg _ (by decide +kernel))⟩,
    ⟨_, hn, ((exports_filter_full mixed {} _ [] [] hn).2 _ rfl).1⟩⟩

end Source

end Redraft
