import Redraft.Prompt.Input
import Redraft.Proofs.Text.Split

/-!
The first input of a session is its blocks with blank lines between them: those of the imports, the
target, the request and, with checking on, the check. None of them is empty, so that none is dropped.
-/
namespace Redraft

theorem Block.render_ne_nil (b : Block) : b.render ≠ [] := by
  simp [render, Text.ofString]

namespace Prompt

def checkBlock (diagnostics : Text) : Text :=
  (Block.check (if diagnostics.isEmpty then noErrors else diagnostics)).render

def ownBlocks (path content request : Text) (check : Option Text) : List Text :=
  [(Block.file path content none true).render, (Block.request request).render] ++
    (check.map checkBlock).toList

theorem filter_ownBlocks (path content request : Text) (check : Option Text) :
    (ownBlocks path content request check).filter (fun b => !b.isEmpty) =
      ownBlocks path content request check := by
  cases check <;> simp [ownBlocks, checkBlock, Block.render_ne_nil]

theorem first_eq (path content request imports : Text) (check : Option Text) :
    first path content request imports check =
      Text.join "\n\n" ([imports].filter (fun b => !b.isEmpty) ++
        ownBlocks path content request check) := by
  rw [← filter_ownBlocks path content request check, ← List.filter_append]
  rfl

theorem first_eq_join (path content request : Text) {blocks : List Text}
    (hblocks : ∀ b ∈ blocks, b ≠ []) (check : Option Text) :
    first path content request (Text.join "\n\n" blocks) check =
      Text.join "\n\n" (blocks ++ ownBlocks path content request check) := by
  have hown : ownBlocks path content request check ≠ [] := by simp [ownBlocks]
  rw [first_eq]
  cases blocks with
  | nil => rfl
  | cons b bs =>
    have hjoin : Text.join "\n\n" (b :: bs) ≠ [] := by simp [Text.join_eq_nil hblocks]
    rw [List.filter_cons_of_pos (by simp [hjoin]), List.filter_nil,
      Text.join_append (List.cons_ne_nil _ _) hown, Text.join_append (List.cons_ne_nil _ _) hown]
    rfl

/-- With a check the first input is the one without it and a block that says what it says. -/
theorem first_some (path content request imports diagnostics : Text) :
    first path content request imports (some diagnostics) =
      first path content request imports none ++
        (Text.ofString "\n\n" ++ checkBlock diagnostics) := by
  have hown : ownBlocks path content request (some diagnostics) =
      ownBlocks path content request none ++ [checkBlock diagnostics] := rfl
  rw [first_eq, first_eq, hown, ← List.append_assoc, Text.join_append (by simp [ownBlocks]) (by simp)]
  rfl

end Prompt

end Redraft
