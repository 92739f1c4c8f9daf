import Redraft.Text.Utf8

/-!
A file tree: entries at locations. A location is the list of names from the root down. A tree has
at most one entry at a location that its operations have set.
-/
namespace Redraft

abbrev Location := List Text

inductive Node where
  | file (content : Bytes) (mode : Nat)
  | link (target : Text)
  | dir (mode : Nat)
  deriving DecidableEq

structure Tree where
  entries : List (Location × Node)
  deriving DecidableEq

namespace Tree

/-- What is at a location. The root is always a directory. -/
def node? (t : Tree) : Location → Option Node
  | [] => some (.dir 0o755)
  | l => t.entries.lookup l

def remove (t : Tree) (l : Location) : Tree := ⟨t.entries.filter (·.1 ≠ l)⟩

def put (t : Tree) (l : Location) (n : Node) : Tree := ⟨(t.remove l).entries ++ [(l, n)]⟩

def isDir (t : Tree) (l : Location) : Bool :=
  match t.node? l with
  | some (.dir _) => true
  | _ => false

def names (t : Tree) (l : Location) : List Text :=
  let inside := t.entries.filterMap fun (m, _) =>
    if m.length = l.length + 1 ∧ m.dropLast = l then m.getLast? else none
  inside.mergeSort Text.le

theorem lookup_append (xs ys : List (Location × Node)) (m : Location) :
    (xs ++ ys).lookup m = (xs.lookup m).or (ys.lookup m) := by
  induction xs with
  | nil => simp
  | cons e rest ih =>
    obtain ⟨k, n⟩ := e
    simp only [List.cons_append, List.lookup_cons]
    split <;> simp [ih]

theorem lookup_filter_ne (entries : List (Location × Node)) {l m : Location} (h : m ≠ l) :
    (entries.filter (·.1 ≠ l)).lookup m = entries.lookup m := by
  induction entries with
  | nil => rfl
  | cons e rest ih =>
    obtain ⟨k, n⟩ := e
    by_cases hk : k = l
    · subst hk
      have hm : (m == k) = false := by simpa using h
      simp only [List.lookup_cons, hm]
      simpa using ih
    · simp only [ne_eq, hk, not_false_eq_true, decide_true, List.filter_cons_of_pos, List.lookup_cons]
      split
      · rfl
      · simpa using ih

theorem lookup_filter_self (entries : List (Location × Node)) (l : Location) :
    (entries.filter (·.1 ≠ l)).lookup l = none := by
  induction entries with
  | nil => rfl
  | cons e rest ih =>
    obtain ⟨k, n⟩ := e
    by_cases hk : k = l
    · simpa [hk] using ih
    · have hl : (l == k) = false := by simpa using fun h => hk h.symm
      simp only [ne_eq, hk, not_false_eq_true, decide_true, List.filter_cons_of_pos, List.lookup_cons, hl]
      simpa using ih

theorem node?_of_ne_nil {t : Tree} {l : Location} (h : l ≠ []) : t.node? l = t.entries.lookup l := by
  cases l with
  | nil => exact absurd rfl h
  | cons a l => rfl

theorem node?_remove_self {t : Tree} {l : Location} (h : l ≠ []) : (t.remove l).node? l = none := by
  rw [node?_of_ne_nil h]
  exact lookup_filter_self t.entries l

@[simp]
theorem node?_remove_ne (t : Tree) {l m : Location} (h : m ≠ l) :
    (t.remove l).node? m = t.node? m := by
  cases m with
  | nil => rfl
  | cons a m => exact lookup_filter_ne t.entries h

@[simp]
theorem node?_put_ne (t : Tree) {l m : Location} (n : Node) (h : m ≠ l) :
    (t.put l n).node? m = t.node? m := by
  cases m with
  | nil => rfl
  | cons a m =>
    have hne : ((a :: m) == l) = false := by simpa using h
    simp only [node?, put, remove, lookup_append, lookup_filter_ne t.entries h]
    simp [List.lookup_cons, hne]

@[simp]
theorem node?_put_self (t : Tree) (a : Text) (l : Location) (n : Node) :
    (t.put (a :: l) n).node? (a :: l) = some n := by
  simp only [node?, put, remove, lookup_append, lookup_filter_self]
  simp

end Tree

end Redraft
