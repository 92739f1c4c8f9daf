import Redraft.Proofs.Failure
import Redraft.Reply.Turn

/-!
What is true of every request that is accepted: where definitions are wanted there is a name for
them, and no name is blank.
-/
namespace Redraft

namespace Checked

variable {α : Type} {x : Checked α} {a : α} {ok : α → Bool} {p : α → Problem}

theorem ensure_eq_ok : x.ensure ok p = .ok a ↔ x = .ok a ∧ ok a = true := by
  cases x with
  | error issues =>
    constructor
    · intro h; cases h
    · rintro ⟨h, -⟩; cases h
  | ok b =>
    rw [ensure]
    by_cases hb : ok b = true
    · rw [if_pos hb]
      constructor
      · intro h
        cases h
        exact ⟨rfl, hb⟩
      · exact And.left
    · rw [if_neg hb]
      constructor
      · intro h; cases h
      · rintro ⟨h, ha⟩
        cases h
        exact absurd ha hb

theorem under_eq_ok {step : Step} : x.under step = .ok a ↔ x = .ok a := mapError_eq_ok

theorem and_eq_ok {β : Type} {f : Checked (α → β)} {b : β} :
    Checked.and f x = .ok b ↔ ∃ g a, f = .ok g ∧ x = .ok a ∧ g a = b := by
  cases f with
  | error issues => cases x <;> simp [Checked.and]
  | ok g => cases x <;> simp [Checked.and]

theorem and_ok {β : Type} {f : Checked (α → β)} {g : α → β} (hf : f = .ok g) (hx : x = .ok a) :
    Checked.and f x = .ok (g a) :=
  and_eq_ok.2 ⟨g, a, hf, hx, rfl⟩

theorem map_ok {β : Type} {g : α → β} (hx : x = .ok a) : x.map g = .ok (g a) :=
  map_eq_ok.2 ⟨a, hx, rfl⟩

theorem all_eq_ok {xs : List (Checked α)} {as : List α} : all xs = .ok as ↔ xs = as.map .ok := by
  induction xs generalizing as with
  | nil =>
    rw [all, Except.ok.injEq, List.nil_eq, List.nil_eq, List.map_eq_nil_iff]
  | cons x xs ih =>
    rw [all, and_eq_ok]
    constructor
    · rintro ⟨g, rest, hx, hrest, rfl⟩
      obtain ⟨b, rfl, rfl⟩ := map_eq_ok.1 hx
      rw [ih.1 hrest]
      rfl
    · intro h
      cases as with
      | nil => cases h
      | cons b as =>
        obtain ⟨rfl, hxs⟩ := List.cons.inj h
        exact ⟨_, as, rfl, ih.2 hxs, rfl⟩

theorem mem_of_all {xs : List (Checked α)} {as : List α} (h : all xs = .ok as) (ha : a ∈ as) :
    .ok a ∈ xs := by
  rw [all_eq_ok.1 h]
  exact List.mem_map_of_mem ha

end Checked

namespace Request

/-- Where definitions are wanted there is a name for them, and no name is blank. -/
structure Named (r : Request) : Prop where
  wanted : r.mode = .definitions → r.definitions.getD [] ≠ []
  noBlank : ∀ name ∈ r.definitions.getD [], Text.isBlank name = false

theorem noBlankNames_iff {names : Option (List Text)} : noBlankNames names = true ↔
    ∀ name ∈ names.getD [], Text.isBlank name = false := by
  cases names <;> simp [noBlankNames]

theorem namesWanted_iff {r : Request} : r.namesWanted = true ↔
    (r.mode = .definitions → r.definitions.getD [] ≠ []) := by
  rw [namesWanted]
  cases r.definitions <;> simp [imp_iff_not_or]

theorem ofFields_eq_ok {fields : List (Data × Data)} {r : Request} : ofFields fields = .ok r ↔
    Schema.required "path" Schema.text fields = .ok r.path ∧
    Schema.required "mode" (Schema.choice Mode.names) fields = .ok r.mode ∧
    Schema.defaulted "definitions" none definitionNames fields = .ok r.definitions ∧
    r.namesWanted = true := by
  rw [ofFields, Checked.ensure_eq_ok, Checked.and_eq_ok]
  constructor
  · rintro ⟨⟨g, names, hg, hnames, rfl⟩, hwanted⟩
    obtain ⟨g', mode, hg', hmode, rfl⟩ := Checked.and_eq_ok.1 hg
    obtain ⟨path, hpath, rfl⟩ := map_eq_ok.1 hg'
    exact ⟨hpath, hmode, hnames, hwanted⟩
  · rintro ⟨hpath, hmode, hnames, hwanted⟩
    exact ⟨⟨_, _, Checked.and_ok (Checked.map_ok hpath) hmode, hnames, rfl⟩, hwanted⟩

theorem noBlank_of_defaulted {fields : List (Data × Data)} {names : Option (List Text)}
    (h : Schema.defaulted "definitions" none definitionNames fields = .ok names) :
    ∀ name ∈ names.getD [], Text.isBlank name = false := by
  rw [Schema.defaulted] at h
  split at h
  · exact noBlankNames_iff.1 (Checked.ensure_eq_ok.1 (mapError_eq_ok.1 h)).2
  · cases h
    simp

theorem named_of_ofFields {fields : List (Data × Data)} {r : Request} (h : ofFields fields = .ok r) :
    r.Named := by
  obtain ⟨-, -, hnames, hwanted⟩ := ofFields_eq_ok.1 h
  exact ⟨namesWanted_iff.1 hwanted, noBlank_of_defaulted hnames⟩

theorem named_of_ofData {d : Data} {r : Request} (h : ofData d = .ok r) : r.Named := by
  cases d with
  | map fields => exact named_of_ofFields h
  | _ => cases h

end Request

namespace Turn

theorem named_of_list {d : Data} {rs : List Request} (h : Schema.list Request.ofData d = .ok rs) :
    ∀ r ∈ rs, r.Named := by
  cases d with
  | list items =>
    intro r hr
    obtain ⟨⟨item, i⟩, -, hitem⟩ := List.mem_map.1 (Checked.mem_of_all h hr)
    exact Request.named_of_ofData (mapError_eq_ok.1 hitem)
  | _ => cases h

theorem named_of_requests {room : Nat} {payload : Text} {rs : List Request}
    (h : requests room payload = .ok rs) : ∀ r ∈ rs, r.Named := by
  rw [requests] at h
  split at h
  · cases h
  · split at h
    · cases h
    · rename_i d hd rs' hrs
      cases h
      exact named_of_list hrs

theorem named_of_ofReply {room : Nat} {reply : Text} {rs : List Request}
    (h : ofReply room reply = .ok (.info rs)) :
    ∀ r ∈ rs, r.Named := by
  rw [ofReply] at h
  split at h
  · split at h
    · rename_i payload hpayload
      cases hread : requests room payload with
      | error e =>
        rw [hread] at h
        cases h
      | ok rs' =>
        rw [hread] at h
        cases h
        exact named_of_requests hread
    · cases h
  · split at h
    · split at h <;> cases h
    · cases h

end Turn

end Redraft
