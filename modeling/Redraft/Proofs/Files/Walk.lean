import Mathlib.Tactic.SplitIfs
import Redraft.Files.Walk
import Redraft.Proofs.Failure

/-!
Walks, one name at a time. A file put where no directory is changes a walk only where the walk comes
to that place, and such a walk ends there.
-/
namespace Redraft.Tree

variable {t t' : Tree} {l here : Location} {names : List Text} {links : Nat}

theorem walk_eq {follow : Bool} (t : Tree) (links : Nat) (here : Location) (names : List Text) :
    t.walk follow links here names =
      match t.walkLeg follow here names with
      | .arrived l => .ok l
      | .stuck e => .error e
      | .linked dir target rest => match links with
        | 0 => .error .tooManyLinks
        | links + 1 =>
          t.walk follow links (linkRoute dir target).1 ((linkRoute dir target).2 ++ rest) :=
  (walk.eq_def t follow links here names).trans rfl

@[simp]
theorem walk_nil {follow : Bool} (t : Tree) (links : Nat) (here : Location) :
    t.walk follow links here [] = .ok here := by
  rw [walk_eq, walkLeg]

theorem walk_cons (t : Tree) (links : Nat) (here : Location) (name : Text) (rest : List Text) :
    t.walk true links here (name :: rest) =
      if t.isDir here = false then .error .notDirectory
      else if name = dot then t.walk true links here rest
      else if name = dotDot then t.walk true links here.dropLast rest
      else if longestName < byteCount name then .error .nameTooLong
      else match t.node? (here ++ [name]) with
        | none => .error .notFound
        | some (.link target) => match links with
          | 0 => .error .tooManyLinks
          | links + 1 =>
            t.walk true links (linkRoute here target).1 ((linkRoute here target).2 ++ rest)
        | some _ => t.walk true links (here ++ [name]) rest := by
  rw [walk_eq, walkLeg.eq_def]
  simp only [Bool.not_eq_true', Bool.not_true, Bool.and_false,
    Bool.false_eq_true, if_false]
  split_ifs with hd h1 h2 h3
  · rfl
  · rw [walk_eq]
  · rw [walk_eq]
  · rfl
  · cases t.node? (here ++ [name]) with
    | none => rfl
    | some n =>
      cases n with
      | link target => rfl
      | file b m => exact (walk_eq t links _ rest).symm
      | dir m => exact (walk_eq t links _ rest).symm

/-- Induction along walks: fewer names with the same links left, or any names with fewer links. -/
theorem walk_induction {P : Nat → Location → List Text → Prop}
    (nil : ∀ links here, P links here [])
    (cons : ∀ links here name rest, (∀ here, P links here rest) →
      (∀ k, k < links → ∀ here names, P k here names) → P links here (name :: rest))
    (links : Nat) (here : Location) (names : List Text) : P links here names := by
  induction links using Nat.strongRecOn generalizing here names with
  | _ links ihlinks =>
    induction names generalizing here with
    | nil => exact nil links here
    | cons name rest ih => exact cons links here name rest ih ihlinks

theorem walk_append (t : Tree) (links : Nat) (here : Location) (names more : List Text) :
    (∃ e k, t.walk true links here names = .ok e ∧
      t.walk true links here (names ++ more) = t.walk true k e more) ∨
    (∃ x, t.walk true links here names = .error x ∧
      t.walk true links here (names ++ more) = .error x) := by
  induction links, here, names using walk_induction with
  | nil links here => exact .inl ⟨here, links, walk_nil t links here, rfl⟩
  | cons links here name rest ih ihlinks =>
    rw [List.cons_append, walk_cons, walk_cons]
    split_ifs with hd h1 h2 h3
    · exact .inr ⟨_, rfl, rfl⟩
    · exact ih here
    · exact ih here.dropLast
    · exact .inr ⟨_, rfl, rfl⟩
    · cases t.node? (here ++ [name]) with
      | none => exact .inr ⟨_, rfl, rfl⟩
      | some n =>
        cases n with
        | file b m => exact ih _
        | dir m => exact ih _
        | link target =>
          cases links with
          | zero => exact .inr ⟨_, rfl, rfl⟩
          | succ k =>
            simp only [← List.append_assoc]
            exact ihlinks k (Nat.lt_succ_self k) _ _

/-- With another number of links left, a walk ends at the same place or follows too many. -/
theorem walk_links (h : t.walk true links here names = .ok l) (k : Nat) :
    t.walk true k here names = .ok l ∨ t.walk true k here names = .error .tooManyLinks := by
  induction links, here, names using walk_induction generalizing k with
  | nil links here => left; simpa using h
  | cons links here name rest ih ihlinks =>
    rw [walk_cons] at h ⊢
    split_ifs at h ⊢ with hd h1 h2 h3
    · exact ih here h k
    · exact ih here.dropLast h k
    · cases hn : t.node? (here ++ [name]) with
      | none => rw [hn] at h; cases h
      | some n =>
        rw [hn] at h
        cases n with
        | file b m => exact ih _ h k
        | dir m => exact ih _ h k
        | link target =>
          cases links with
          | zero => cases h
          | succ j =>
            cases k with
            | zero => exact .inr rfl
            | succ k => exact ihlinks j (Nat.lt_succ_self j) _ _ h k

theorem walk_fails (t : Tree) (links : Nat) (here : Location) (names : List Text) :
    FailsWith (fun e => Files.FileError.meansAbsent e = true ∨ e = .nameTooLong)
      (t.walk true links here names) := by
  induction links, here, names using walk_induction with
  | nil links here =>
    rw [walk_nil]
    exact .ok here
  | cons links here name rest ih ihlinks =>
    rw [walk_cons]
    split_ifs with hd h1 h2 h3
    · exact .error (.inl rfl)
    · exact ih here
    · exact ih here.dropLast
    · exact .error (.inr rfl)
    · cases t.node? (here ++ [name]) with
      | none => exact .error (.inl rfl)
      | some n =>
        cases n with
        | file b m => exact ih _
        | dir m => exact ih _
        | link target =>
          cases links with
          | zero => exact .error (.inl rfl)
          | succ k => exact ihlinks k (Nat.lt_succ_self k) _ _

theorem isDir_iff : t.isDir l = true ↔ ∃ mode, t.node? l = some (.dir mode) := by
  rw [isDir]
  cases t.node? l with
  | none => simp
  | some n => cases n <;> simp

theorem isDir_of_walk_cons {name : Text} (h : t.walk true links here (name :: names) = .ok l) :
    t.isDir here = true := by
  cases hd : t.isDir here with
  | true => rfl
  | false => rw [walk_cons, if_pos hd] at h; cases h

theorem walk_of_not_isDir (hd : t.isDir here = false) :
    t.walk true links here names = if names = [] then .ok here else .error .notDirectory := by
  cases names with
  | nil => simp
  | cons name rest => rw [walk_cons, if_pos hd, if_neg (List.cons_ne_nil name rest)]

/-- What a walk comes to when it meets a location: nothing there stops it, a file ends it, and a link
leads on. -/
def Meets (t : Tree) (l : Location) (x : Except FileError Location) : Prop :=
  match t.node? l with
  | none => x = .error .notFound
  | some (.file ..) => x = .ok l ∨ x = .error .notDirectory
  | some (.link target) => x = .error .tooManyLinks ∨
    ∃ k rest, x = t.walk true k (linkRoute l.dropLast target).1
      ((linkRoute l.dropLast target).2 ++ rest)
  | some (.dir _) => False

theorem isDir_remove (hd : t.isDir l = false) (m : Location) : (t.remove l).isDir m = t.isDir m := by
  by_cases hm : m = l
  · have hne : l ≠ [] := by
      rintro rfl
      cases hd
    rw [hm, hd, isDir, node?_remove_self hne]
  · rw [isDir, isDir, node?_remove_ne t hm]

/-- A tree with a file at a location where no directory was, and all else as it was. -/
structure FiledAt (t t' : Tree) (l : Location) : Prop where
  isFile : ∃ bytes mode, t'.node? l = some (.file bytes mode)
  noDir : t.isDir l = false
  others : ∀ m, m ≠ l → t'.node? m = t.node? m

namespace FiledAt

theorem isDir_eq (h : FiledAt t t' l) (m : Location) : t'.isDir m = t.isDir m := by
  by_cases hm : m = l
  · obtain ⟨bytes, mode, hl⟩ := h.isFile
    rw [hm, h.noDir, isDir, hl]
  · rw [isDir, isDir, h.others m hm]

theorem ne_nil (h : FiledAt t t' l) : l ≠ [] := by
  rintro rfl
  cases h.noDir

theorem walk_behind (h : FiledAt t t' l) (links : Nat) (names : List Text) :
    t'.walk true links l names = .ok l ∨ t'.walk true links l names = .error .notDirectory := by
  rw [walk_of_not_isDir (by rw [h.isDir_eq, h.noDir])]
  split_ifs
  · exact .inl rfl
  · exact .inr rfl

/-- A walk that does not come to the place of the file is the same with and without the file, and
with nothing there. One that does ends at the file, and without anything there it finds nothing. -/
theorem walk_cases (h : FiledAt t t' l) (links : Nat) (here : Location) (names : List Text) :
    (t'.walk true links here names = t.walk true links here names ∧
      (t.remove l).walk true links here names = t.walk true links here names) ∨
    (t'.walk true links here names = .ok l ∨ t'.walk true links here names = .error .notDirectory) ∧
      t.Meets l (t.walk true links here names) ∧
      (t.remove l).walk true links here names = .error .notFound := by
  induction links, here, names using walk_induction with
  | nil links here => simp
  | cons links here name rest ih ihlinks =>
    rw [walk_cons, walk_cons, walk_cons, h.isDir_eq, isDir_remove h.noDir]
    split_ifs with hd h1 h2 h3
    · exact .inl ⟨rfl, rfl⟩
    · exact ih here
    · exact ih here.dropLast
    · exact .inl ⟨rfl, rfl⟩
    · by_cases hl : here ++ [name] = l
      · obtain ⟨bytes, mode, hfile⟩ := h.isFile
        rw [hl, hfile, node?_remove_self h.ne_nil]
        refine .inr ⟨h.walk_behind links rest, ?_, rfl⟩
        rw [Meets]
        cases hn : t.node? l with
        | none => rfl
        | some n =>
          cases n with
          | file b m =>
            dsimp only
            rw [walk_of_not_isDir h.noDir]
            split_ifs
            · exact .inl rfl
            · exact .inr rfl
          | dir m => exact absurd h.noDir (by simp [isDir, hn])
          | link target =>
            have hdir : l.dropLast = here := by rw [← hl, List.dropLast_concat]
            rw [hdir]
            cases links with
            | zero => exact .inl rfl
            | succ k => exact .inr ⟨k, rest, rfl⟩
      · rw [h.others _ hl, node?_remove_ne t hl]
        cases t.node? (here ++ [name]) with
        | none => exact .inl ⟨rfl, rfl⟩
        | some n =>
          cases n with
          | file b m => exact ih _
          | dir m => exact ih _
          | link target =>
            cases links with
            | zero => exact .inl ⟨rfl, rfl⟩
            | succ k => exact ihlinks k (Nat.lt_succ_self k) _ _

end FiledAt

end Redraft.Tree
