import Redraft.Proofs.Json.Decode
import Redraft.Proofs.Reply.Turn
import Redraft.Proofs.Schema
import Redraft.Proofs.Source.Excerpt

/-!
Payloads of show tags. A payload that is JSON is accepted if it is a list of objects that describe
requests, and the requests are then the ones described, in order. Requests that a reply brings can be
served by name, whatever the files hold.
-/
namespace Redraft

namespace Data

variable {fields : List (Data × Data)} {d : Data} {name : Text}

theorem IsJson.of_field? (hfields : IsJson (.map fields)) (h : field? name fields = some d) :
    IsJson d := by
  obtain ⟨e, he, rfl⟩ := Option.map_eq_some_iff.1 h
  cases hfields with
  | map _ hvalues => exact hvalues e (List.mem_of_find?_eq_some he)

end Data

namespace Schema

open Data (IsJson)

variable {d : Data} {t : Text}

/-! JSON values are not converted: a text is read from a text only. -/

theorem text_eq_ok (hd : IsJson d) : text d = .ok t ↔ d = .text t := by
  cases hd <;> simp [text, unicode?, Checked.fail]

theorem list_eq_ok_iff {α : Type} {read : Data → Checked α} {R : Data → α → Prop}
    (hread : ∀ d, IsJson d → ∀ a, read d = .ok a ↔ R d a) (hd : IsJson d) {as : List α} :
    list read d = .ok as ↔ ∃ items, d = .list items ∧ List.Forall₂ R items as := by
  rw [list_eq_ok]
  refine exists_congr fun items => and_congr_right ?_
  rintro rfl
  cases hd with
  | list hall =>
    induction items generalizing as with
    | nil => simp
    | cons item items ih =>
      obtain ⟨hitem, hall⟩ := List.forall_mem_cons.1 hall
      simp only [List.forall₂_cons_left_iff, hread item hitem, ih hall]

theorem texts_eq_ok (hd : IsJson d) {ts : List Text} :
    list text d = .ok ts ↔ d = .list (ts.map .text) := by
  rw [list_eq_ok_iff (R := fun d t => d = .text t) (fun _ hd _ => text_eq_ok hd) hd]
  simp only [← List.forall₂_map_right_iff (f := Data.text) (R := (· = ·)), List.forall₂_eq_eq_eq]
  exact ⟨fun ⟨_, hd, hitems⟩ => hitems ▸ hd, fun hd => ⟨_, hd, rfl⟩⟩

theorem required_eq_ok_iff {α : Type} {read : Data → Checked α} {write : α → Data}
    (hread : ∀ d, IsJson d → ∀ a, read d = .ok a ↔ d = write a) {fields : List (Data × Data)}
    (hfields : IsJson (.map fields)) {name : Text} {a : α} :
    required name read fields = .ok a ↔ Data.field? name fields = some (write a) := by
  rw [required_eq_ok]
  constructor
  · rintro ⟨d, hfield, hd⟩
    rw [hfield, (hread d (hfields.of_field? hfield) a).1 hd]
  · intro hfield
    exact ⟨_, hfield, (hread _ (hfields.of_field? hfield) a).2 rfl⟩

theorem choice_text {α : Type} {choices : List (Text × α)} {a : α} :
    choice choices (.text t) = .ok a ↔
      t.any Utf8.isSurrogate = false ∧ choices.lookup t = some a := by
  rw [choice, unicode?]
  cases t.any Utf8.isSurrogate with
  | true => simp [Checked.fail]
  | false => cases hlookup : choices.lookup t <;> simp [hlookup, Checked.fail]

theorem choice_eq_ok {α : Type} {choices : List (Text × α)} {a : α} (hd : IsJson d) :
    choice choices d = .ok a ↔
      ∃ t, d = .text t ∧ t.any Utf8.isSurrogate = false ∧ choices.lookup t = some a := by
  cases hd with
  | text t =>
    rw [choice_text]
    exact ⟨fun h => ⟨t, rfl, h⟩, fun ⟨s, hs, h⟩ => Data.text.inj hs ▸ h⟩
  | _ => simp [choice, unicode?, Checked.fail]

end Schema

namespace Request

open Checked Schema
open Data (IsJson field?)

variable {d : Data} {fields : List (Data × Data)} {r : Request} {names : Option (List Text)}
  {m : Mode}

theorem lookup_modes {t : Text} : Mode.names.lookup t = some m ↔ t = m.toText := by
  constructor
  · intro h
    have hnames : ∀ e ∈ Mode.names, e.1 = e.2.toText := by decide
    exact hnames (t, m) (Keyed.mem_of_lookup h)
  · rintro rfl
    cases m <;> decide

theorem mode_eq_ok (hd : IsJson d) : choice Mode.names d = .ok m ↔ d = .text m.toText := by
  rw [choice_eq_ok hd]
  constructor
  · rintro ⟨t, rfl, -, hlookup⟩
    rw [lookup_modes.1 hlookup]
  · rintro rfl
    have hunicode : m.toText.any Utf8.isSurrogate = false := by cases m <;> decide
    exact ⟨_, rfl, hunicode, lookup_modes.2 rfl⟩

/-- What is given as the names of the wanted definitions. -/
inductive GivesNames : Option Data → Option (List Text) → Prop
  | absent : GivesNames none none
  | null : GivesNames (some .null) none
  | list (names : List Text) : GivesNames (some (.list (names.map .text))) (some names)

/-- The fields of an object that describe a request. -/
structure Describes (fields : List (Data × Data)) (r : Request) : Prop where
  path : field? "path" fields = some (.text r.path)
  mode : field? "mode" fields = some (.text r.mode.toText)
  definitions : GivesNames (field? "definitions" fields) r.definitions

def Asks (item : Data) (r : Request) : Prop :=
  ∃ fields, item = .map fields ∧ Describes fields r ∧ r.Named

theorem definitionNames_eq_ok (hd : IsJson d) : definitionNames d = .ok names ↔
    GivesNames (some d) names ∧ ∀ name ∈ names.getD [], Text.isBlank name = false := by
  rw [definitionNames, ensure_eq_ok, noBlankNames_iff, optional_eq_ok]
  refine and_congr_left fun _ => ?_
  constructor
  · rintro (⟨rfl, rfl⟩ | ⟨-, ts, hts, rfl⟩)
    · exact .null
    · rw [(texts_eq_ok hd).1 hts]
      exact .list ts
  · intro h
    cases h with
    | null => exact .inl ⟨rfl, rfl⟩
    | list ts => exact .inr ⟨Data.noConfusion, ts, (texts_eq_ok hd).2 rfl, rfl⟩

theorem defaulted_names_eq_ok (hfields : IsJson (.map fields)) :
    defaulted "definitions" none definitionNames fields = .ok names ↔
      GivesNames (field? "definitions" fields) names ∧
        ∀ name ∈ names.getD [], Text.isBlank name = false := by
  rw [defaulted_eq_ok]
  cases hfield : field? "definitions" fields with
  | none =>
    constructor
    · rintro (⟨-, rfl⟩ | ⟨d, hd, -⟩)
      · exact ⟨.absent, by simp⟩
      · cases hd
    · rintro ⟨hgives, -⟩
      cases hgives
      exact .inl ⟨rfl, rfl⟩
  | some d => simp [definitionNames_eq_ok (hfields.of_field? hfield)]

theorem ofData_eq_ok (hd : IsJson d) : ofData d = .ok r ↔ Asks d r := by
  cases d with
  | map fields =>
    rw [ofData, record, ofFields_eq_ok, required_eq_ok_iff (fun _ hd _ => text_eq_ok hd) hd,
      required_eq_ok_iff (fun _ hd _ => mode_eq_ok hd) hd, defaulted_names_eq_ok hd, namesWanted_iff]
    constructor
    · rintro ⟨hpath, hmode, ⟨hgives, hblank⟩, hwanted⟩
      exact ⟨fields, rfl, ⟨hpath, hmode, hgives⟩, ⟨hwanted, hblank⟩⟩
    · rintro ⟨fields', hfields, ⟨hpath, hmode, hgives⟩, ⟨hwanted, hblank⟩⟩
      cases hfields
      exact ⟨hpath, hmode, ⟨hgives, hblank⟩, hwanted⟩
  | _ => simp [ofData, record, fail, Asks]

end Request

namespace Turn

variable {room : Nat} {payload : Text} {d : Data} {rs : List Request}

theorem requests_eq_ok (h : Json.decode room payload = .ok d) : requests room payload = .ok rs ↔
    ∃ items, d = .list items ∧ List.Forall₂ Request.Asks items rs := by
  have hlist : Schema.list Request.ofData d = .ok rs ↔
      ∃ items, d = .list items ∧ List.Forall₂ Request.Asks items rs :=
    Schema.list_eq_ok_iff (fun _ hd _ => Request.ofData_eq_ok hd) (Json.isJson_of_decode h)
  rw [← hlist, requests, h]
  dsimp only
  cases Schema.list Request.ofData d <;> simp

/-- A payload is refused as a whole, with the issues of all its items. -/
theorem requests_eq_error (h : Json.decode room payload = .ok d)
    (hrs : ∀ rs, requests room payload ≠ .ok rs) :
    ∃ issues, requests room payload = .error (.notRequests payload issues) := by
  rw [requests, h] at hrs ⊢
  dsimp only at hrs ⊢
  cases hlist : Schema.list Request.ofData d with
  | ok rs =>
    rw [hlist] at hrs
    exact absurd rfl (hrs rs)
  | error issues => exact ⟨issues, rfl⟩

end Turn

namespace Source

open Failure (OfFiles)

theorem isSome_definitions?_of_named {r : Request} (hr : r.Named) (t : Text) :
    (definitions? t (r.definitions.getD [])).isSome := by
  refine isSome_definitions? (fun name hname hnil => ?_) t
  subst hnil
  exact absurd (hr.noBlank [] hname) (by decide)

theorem ne_of_ofFiles {e : Failure} (h : OfFiles e) : e ≠ .noNames ∧ e ≠ .emptyName := by
  constructor
  · rintro rfl
    cases h
  · rintro rfl
    cases h

end Source

namespace Turn

open Source

/-- A payload that is JSON is accepted if it is a list of requests, and is then these requests, in
order; else it is refused, with its text. Requests that a reply brings have the names that serving
them takes, for every text they are looked up in: neither names that are missing nor an empty one is
ever what serving them fails with. -/
theorem requests_eq_ok_iff_asks (room : Nat) :
    (∀ payload d, Json.decode room payload = .ok d →
      (∀ rs, requests room payload = .ok rs ↔
        ∃ items, d = .list items ∧ List.Forall₂ Request.Asks items rs) ∧
      ((∀ rs, requests room payload ≠ .ok rs) →
        ∃ issues, requests room payload = .error (.notRequests payload issues)) ∧
      ∀ e, requests room payload = .error e → e.content = payload) ∧
    ∀ reply rs, ofReply room reply = .ok (.info rs) →
      (∀ r ∈ rs, (r.mode = .definitions → r.definitions.getD [] ≠ []) ∧
        ∀ t, (definitions? t (r.definitions.getD [])).isSome) ∧
      ∀ links f lang base,
        (∀ r ∈ rs, ∀ e, answer links f lang base r = .error e → e ≠ .noNames ∧ e ≠ .emptyName) ∧
        ∀ e, serve links f lang base rs = .error e → e ≠ .noNames ∧ e ≠ .emptyName := by
  constructor
  · intro payload d h
    refine ⟨fun rs => requests_eq_ok h, requests_eq_error h, fun e he => ?_⟩
    obtain ⟨issues, hissues⟩ := requests_eq_error h fun rs hrs => by cases he.symm.trans hrs
    rw [Except.error.inj (he.symm.trans hissues), ReplyError.content]
  · intro reply rs h
    have hnamed := named_of_ofReply h
    refine ⟨fun r hr => ⟨(hnamed r hr).wanted, isSome_definitions?_of_named (hnamed r hr)⟩, ?_⟩
    intro links f lang base
    exact ⟨fun r hr e he => ne_of_ofFiles (answer_fails f lang links base (hnamed r hr) e he),
      fun e he => ne_of_ofFiles (serve_fails f lang links base hnamed e he)⟩

def samplePayload : Text :=
  "[\x7b\"path\": \"a.ts\", \"mode\": \"definitions\", \"definitions\": [\"f\"], \"x\": 1\x7d]"

def sampleRequest : Request := ⟨"a.ts", .definitions, some ["f"]⟩

theorem requests_eq_ok_iff_asks_sample :
    (∃ item, Json.decode 3 samplePayload = .ok (.list [item]) ∧ Request.Asks item sampleRequest) ∧
    ofReply 3 (showOpen ++ samplePayload ++ showClose) = .ok (.info [sampleRequest]) ∧
    ∀ t, (definitions? t ["f"]).isSome := by
  have hdecoded : (Json.decode 3 samplePayload).isOk = true := by decide +kernel
  have hread : (requests 3 samplePayload).toOption = some [sampleRequest] := by decide +kernel
  have hrequests : requests 3 samplePayload = .ok [sampleRequest] := by
    cases h : requests 3 samplePayload with
    | error e => cases h ▸ hread
    | ok rs => rw [h] at hread; exact congrArg _ (Option.some.inj hread)
  have hreply : ofReply 3 (showOpen ++ samplePayload ++ showClose) = .ok (.info [sampleRequest]) := by
    have hopens : Text.breakOn? showOpen (showOpen ++ samplePayload ++ showClose) =
        some ([], samplePayload ++ showClose) := by decide +kernel
    have hcloses : Text.breakOn? showClose (samplePayload ++ showClose) =
        some (samplePayload, []) := by decide +kernel
    have htrim : Text.trim samplePayload = samplePayload := by decide +kernel
    rw [ofReply_eq_info (Text.breakOn?_eq_some.1 hopens) (Text.breakOn?_eq_some.1 hcloses), htrim,
      hrequests]
    rfl
  refine ⟨?_, hreply, (((requests_eq_ok_iff_asks 3).2 _ _ hreply).1 _ List.mem_cons_self).2⟩
  cases h : Json.decode 3 samplePayload with
  | error failure => cases h ▸ hdecoded
  | ok d =>
    obtain ⟨items, rfl, hitems⟩ := (((requests_eq_ok_iff_asks 3).1 samplePayload d h).1 _).1 hrequests
    obtain ⟨item, rest, hitem, hrest, rfl⟩ := List.forall₂_cons_right_iff.1 hitems
    cases hrest
    exact ⟨item, rfl, hitem⟩

end Turn

end Redraft
