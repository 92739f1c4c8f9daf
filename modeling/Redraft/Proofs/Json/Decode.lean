import Redraft.Json.Decode
import Redraft.Proofs.Failure

/-!
What decoding gives: values of the six kinds that a JSON text has, all the way down. There are no
bytes and no dates in them, and every object has its fields under texts.
-/
namespace Redraft

/-- A value that JSON has. -/
inductive Data.IsJson : Data → Prop
  | null : IsJson .null
  | bool (b : Bool) : IsJson (.bool b)
  | int (n : Int) : IsJson (.int n)
  | float (x : Float) : IsJson (.float x)
  | text (t : Text) : IsJson (.text t)
  | list {items : List Data} (items_isJson : ∀ d ∈ items, IsJson d) : IsJson (.list items)
  | map {fields : List (Data × Data)} (keys_text : ∀ e ∈ fields, ∃ name, e.1 = .text name)
      (values_isJson : ∀ e ∈ fields, IsJson e.2) : IsJson (.map fields)

namespace Json

open Data (IsJson)

variable {d : Data} {fields : List (Data × Data)} {t rest name : Text}

theorem isJson_put (hd : IsJson d) (hfields : IsJson (.map fields)) :
    IsJson (.map (Data.put (.text name) d fields)) := by
  induction fields with
  | nil => exact .map (by simp [Data.put]) (by simpa [Data.put] using hd)
  | cons e fields ih =>
    obtain ⟨k, v⟩ := e
    cases hfields with
    | map hkeys hvalues =>
      obtain ⟨hkey, hkeys⟩ := List.forall_mem_cons.1 hkeys
      obtain ⟨hvalue, hvalues⟩ := List.forall_mem_cons.1 hvalues
      rw [Data.put]
      split
      · exact .map (List.forall_mem_cons.2 ⟨hkey, hkeys⟩) (List.forall_mem_cons.2 ⟨hd, hvalues⟩)
      · cases ih (.map hkeys hvalues) with
        | map hkeys' hvalues' =>
          exact .map (List.forall_mem_cons.2 ⟨hkey, hkeys'⟩) (List.forall_mem_cons.2 ⟨hvalue, hvalues'⟩)

theorem isJson_readNumber (h : readNumber t = .ok (d, rest)) : IsJson d := by
  simp only [readNumber] at h
  split_ifs at h
  · cases h
    exact .float _
  · cases h
    exact .int _
  · cases h
    exact .int _

theorem isJson_readScalar (h : readScalar t = .ok (d, rest)) : IsJson d := by
  have hwords : ∀ w ∈ words, IsJson w.2 := by
    simp only [words, List.forall_mem_cons, List.not_mem_nil, false_imp_iff, implies_true, and_true]
    exact ⟨.null, .bool _, .bool _, .float _, .float _, .float _⟩
  rw [readScalar] at h
  split at h
  · next found hfound =>
    cases h
    obtain ⟨w, hw, hdrop⟩ := List.exists_of_findSome?_eq_some hfound
    obtain ⟨r, -, hr⟩ := Option.map_eq_some_iff.1 hdrop
    cases hr
    exact hwords w hw
  · exact isJson_readNumber h

/-- What the readers give with so much fuel. Each of them calls the others with less. -/
structure ReadsJson (fuel : Nat) : Prop where
  value : ∀ {room t d rest}, readValue fuel room t = .ok (d, rest) → IsJson d
  items : ∀ {room t items rest}, readItems fuel room t = .ok (items, rest) → IsJson (.list items)
  fields : ∀ {room fields t found rest}, IsJson (.map fields) →
    readFields fuel room fields t = .ok (found, rest) → IsJson (.map found)

variable {fuel room : Nat} {items : List Data} {found : List (Data × Data)}

theorem isJson_readValue (ih : ReadsJson fuel) (h : readValue (fuel + 1) room t = .ok (d, rest)) :
    IsJson d := by
  rw [readValue.eq_def] at h
  dsimp only at h
  split at h
  · obtain ⟨⟨s, r⟩, -, hs⟩ := map_eq_ok.1 h
    cases hs
    exact .text s
  · cases h
  · cases h
  · split at h
    · cases h
      exact .list (by simp)
    · obtain ⟨⟨items, r⟩, hitems, hr⟩ := map_eq_ok.1 h
      cases hr
      exact ih.items hitems
  · split at h
    · cases h
      exact .map (by simp) (by simp)
    · obtain ⟨⟨found, r⟩, hfound, hr⟩ := map_eq_ok.1 h
      cases hr
      exact ih.fields (.map (by simp) (by simp)) hfound
  · exact isJson_readScalar h

theorem isJson_readItems (ih : ReadsJson fuel)
    (h : readItems (fuel + 1) room t = .ok (items, rest)) : IsJson (.list items) := by
  rw [readItems.eq_def] at h
  obtain ⟨⟨item, r⟩, hitem, h⟩ := bind_eq_ok.1 h
  have hjson := ih.value hitem
  dsimp only at h
  split at h
  · cases h
    exact .list (by simpa using hjson)
  · obtain ⟨⟨more, r'⟩, hmore, h⟩ := bind_eq_ok.1 h
    cases h
    cases ih.items hmore with
    | list hall => exact .list (List.forall_mem_cons.2 ⟨hjson, hall⟩)
  · cases h

theorem isJson_readFields (ih : ReadsJson fuel) (hfields : IsJson (.map fields))
    (h : readFields (fuel + 1) room fields t = .ok (found, rest)) : IsJson (.map found) := by
  rw [readFields.eq_def] at h
  dsimp only at h
  split at h
  · obtain ⟨⟨name, r⟩, -, h⟩ := bind_eq_ok.1 h
    dsimp only at h
    split at h
    · obtain ⟨⟨value, r'⟩, hvalue, h⟩ := bind_eq_ok.1 h
      have hput : IsJson (.map (Data.put (.text name) value fields)) :=
        isJson_put (ih.value hvalue) hfields
      dsimp only at h
      split at h
      · cases h
        exact hput
      · exact ih.fields hput h
      · cases h
    · cases h
  · cases h

theorem readsJson (fuel : Nat) : ReadsJson fuel := by
  induction fuel with
  | zero =>
    -- without fuel every reader fails
    refine ⟨fun h => ?_, fun h => ?_, fun _ h => ?_⟩
    · cases (readValue.eq_1 _ _).symm.trans h
    · cases (readItems.eq_1 _ _).symm.trans h
    · cases (readFields.eq_1 _ _ _).symm.trans h
  | succ fuel ih => exact ⟨isJson_readValue ih, isJson_readItems ih, isJson_readFields ih⟩

theorem isJson_of_decode (h : decode room t = .ok d) : IsJson d := by
  rw [decode] at h
  split at h
  · cases h
  · split at h
    · cases h
    · next d' rest hread =>
      dsimp only at h
      split at h
      · cases h
        exact (readsJson _).value hread
      · cases h

end Json

end Redraft
