import Redraft.Config.Write
import Redraft.Proofs.Reply.Request
import Redraft.Proofs.Text.Keyed

/-!
Readers of documents, on what they accept and on what the writers make. Every field, list and table
that is written out is read back.
-/
namespace Redraft

theorem Text.ofString_inj {s t : String} : Text.ofString s = Text.ofString t ↔ s = t := by
  have hinj : Function.Injective CodePoint.scalar := fun _ _ h => CodePoint.scalar.inj h
  rw [Text.ofString, Text.ofString, hinj.list_map.eq_iff, String.toList_inj]

namespace Data

def named (fields : List (String × Data)) : List (Data × Data) :=
  fields.map fun (k, v) => (.text (Text.ofString k), v)

theorem field?_named (name : String) (fields : List (String × Data)) :
    field? name (named fields) = fields.lookup name := by
  induction fields with
  | nil => rfl
  | cons entry rest ih =>
    obtain ⟨k, v⟩ := entry
    by_cases hk : k = name
    · subst hk
      simp [named, field?]
    · have hne : (name == k) = false := by simpa using Ne.symm hk
      rw [List.lookup_cons, hne, ← ih]
      simp [named, field?, Text.ofString_inj, hk]

def ofTable (table : List (Text × Text)) : List (Data × Data) :=
  table.map fun (k, v) => (.text k, .text v)

theorem put_ofTable (key value : Text) (table : List (Text × Text)) :
    put (.text key) (.text value) (ofTable table) = ofTable (Keyed.assign key value table) := by
  induction table with
  | nil => rfl
  | cons entry rest ih =>
    obtain ⟨k, v⟩ := entry
    have hput : put (.text key) (.text value) (ofTable ((k, v) :: rest)) =
        if k = key then (.text k, .text value) :: ofTable rest
        else (.text k, .text v) :: put (.text key) (.text value) (ofTable rest) := by
      simp [ofTable, put, sameKey]
    rw [hput, ih, Keyed.assign]
    split <;> rfl

end Data

namespace Schema

open Checked

variable {α : Type} {read : Data → Checked α} {a absent : α} {d : Data} {name : String}
  {fields : List (String × Data)} {f : List (Data × Data)} {n least : Nat}

/-! What is accepted. -/

theorem required_eq_ok {key : Text} :
    required key read f = .ok a ↔ ∃ d, Data.field? key f = some d ∧ read d = .ok a := by
  rw [required]
  cases Data.field? key f with
  | none => simp [under, fail, Except.mapError]
  | some d => simp [under_eq_ok]

theorem defaulted_eq_ok {key : Text} : defaulted key absent read f = .ok a ↔
    (Data.field? key f = none ∧ absent = a) ∨ ∃ d, Data.field? key f = some d ∧ read d = .ok a := by
  rw [defaulted]
  cases Data.field? key f with
  | none => simp
  | some d => simp [under_eq_ok]

theorem of_defaulted {p : α → Prop} (h : defaulted name absent read f = .ok a) (habsent : p absent)
    (hread : ∀ d, read d = .ok a → p a) : p a := by
  rcases defaulted_eq_ok.1 h with ⟨-, rfl⟩ | ⟨d, -, hd⟩
  · exact habsent
  · exact hread d hd

theorem exists_of_required (h : required name read f = .ok a) : ∃ d, read d = .ok a := by
  obtain ⟨d, -, hd⟩ := required_eq_ok.1 h
  exact ⟨d, hd⟩

theorem list_eq_ok {as : List α} : list read d = .ok as ↔
    ∃ items, d = .list items ∧ List.Forall₂ (fun item a => read item = .ok a) items as := by
  have hall (items : List Data) (i : Nat) :
      all ((items.zipIdx i).map fun p => (read p.1).under (.index p.2)) = .ok as ↔
        List.Forall₂ (fun item a => read item = .ok a) items as := by
    rw [all_eq_ok]
    induction items generalizing as i with
    | nil => cases as <;> simp
    | cons item items ih =>
      cases as with
      | nil => simp
      | cons b as => simp [under_eq_ok, ih]
  cases d with
  | list items => simpa [list] using hall items 0
  | _ => simp [list, fail]

theorem exists_of_list {as : List α} (h : list read d = .ok as) : ∀ a ∈ as, ∃ d, read d = .ok a := by
  cases d with
  | list items =>
    intro a ha
    obtain ⟨⟨item, i⟩, -, hitem⟩ := List.mem_map.1 (Checked.mem_of_all h ha)
    exact ⟨item, under_eq_ok.1 hitem⟩
  | _ => cases h

theorem le_of_atLeast (h : atLeast least d = .ok n) : least ≤ n := by
  obtain ⟨i, hi, rfl⟩ := map_eq_ok.1 h
  have hle := (ensure_eq_ok.1 hi).2
  simp only [decide_eq_true_eq] at hle
  omega

theorem optional_eq_ok {x : Option α} : Schema.optional read d = .ok x ↔
    (d = .null ∧ none = x) ∨ d ≠ .null ∧ ∃ a, read d = .ok a ∧ some a = x := by
  cases d with
  | null => simp [Schema.optional]
  | _ => simp [Schema.optional, map_eq_ok]

theorem exists_of_optional {x : Option α} (h : Schema.optional read d = .ok x) :
    ∀ a ∈ x, ∃ d, read d = .ok a := by
  rintro a rfl
  rcases optional_eq_ok.1 h with ⟨-, hnone⟩ | ⟨-, b, hb, hsome⟩
  · cases hnone
  · exact ⟨d, Option.some.inj hsome ▸ hb⟩

/-! What is written. -/

theorem defaulted_named (h : fields.lookup name = some d) (hread : read d = .ok a) :
    defaulted name absent read (Data.named fields) = .ok a := by
  rw [defaulted, Data.field?_named, h]
  exact mapError_eq_ok.2 hread

theorem required_named (h : fields.lookup name = some d) (hread : read d = .ok a) :
    required name read (Data.named fields) = .ok a := by
  rw [required, Data.field?_named, h]
  exact mapError_eq_ok.2 hread

theorem list_map {as : List α} {write : α → Data} (h : ∀ a ∈ as, read (write a) = .ok a) :
    list read (.list (as.map write)) = .ok as :=
  list_eq_ok.2 ⟨_, rfl, List.forall₂_map_left_iff.2 (List.forall₂_same.2 h)⟩

theorem list_texts (ts : List Text) : list text (.texts ts) = .ok ts := list_map fun _ _ => rfl

theorem atLeast_int (h : least ≤ n) : atLeast least (.int n) = .ok n := by
  refine map_eq_ok.2 ⟨n, ensure_eq_ok.2 ⟨rfl, ?_⟩, Int.toNat_natCast n⟩
  exact decide_eq_true (Int.ofNat_le.2 h)

theorem textMap_ofTable (table : List (Text × Text)) :
    textMap (.map (Data.ofTable table)) = .ok (Keyed.ofPairs table) := by
  refine map_ok ?_
  induction table with
  | nil => rfl
  | cons entry rest ih => exact and_ok rfl ih

end Schema

end Redraft
