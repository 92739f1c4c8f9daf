import Redraft.Proofs.Config.WellFormed

/-!
Reading a configuration that was written out. It is accepted, and it is the same configuration if
the names of its model aliases are readable; names that are not are written in a readable form.
-/
namespace Redraft

open Checked Schema

namespace Utf8

/-- Whether a text has no lone surrogate. -/
def IsReadable (t : Text) : Prop := ∀ c ∈ t, isSurrogate c = false

instance (t : Text) : Decidable (IsReadable t) :=
  inferInstanceAs (Decidable (∀ c ∈ t, isSurrogate c = false))

theorem isReadable_readable (t : Text) : IsReadable (readable t) := by
  intro c hc
  obtain ⟨c', -, hmem⟩ := List.mem_flatMap.1 hc
  split at hmem
  · simp only [List.mem_cons, List.not_mem_nil, or_false, or_self] at hmem
    exact hmem ▸ rfl
  · next h =>
    rw [List.mem_singleton.1 hmem]
    simpa using h

theorem readable_eq_self {t : Text} : readable t = t ↔ IsReadable t := by
  constructor
  · intro h
    rw [← h]
    exact isReadable_readable t
  · intro h
    induction t with
    | nil => rfl
    | cons c rest ih =>
      have hrest : readable rest = rest := ih fun c' hc' => h c' (List.mem_cons_of_mem _ hc')
      have hc : isSurrogate c = false := h c List.mem_cons_self
      rw [readable, List.flatMap_cons, hc, if_neg Bool.false_ne_true]
      exact congrArg (c :: ·) hrest

end Utf8

/-- The agent with readable names for its aliases. Of two that become one the last counts. -/
def AgentConfig.readable (a : AgentConfig) : AgentConfig :=
  { a with modelAliases := Keyed.ofPairs (a.modelAliases.map fun (k, v) => (Utf8.readable k, v)) }

def Config.readable (c : Config) : Config := { c with agent := c.agent.readable }

theorem Language.ofData_toData (l : Language) : ofData l.toData = .ok l := by
  refine and_ok (and_ok (and_ok (map_ok ?extension) ?importMark) ?exportMark) ?excluded
  case extension => exact defaulted_named rfl rfl
  case importMark => exact defaulted_named rfl rfl
  case exportMark => exact defaulted_named rfl rfl
  case excluded => exact defaulted_named rfl (list_texts l.excluded)

namespace AgentConfig

theorem aliases_toData (a : AgentConfig) :
    a.modelAliases.foldl (fun done (k, v) => Data.put (.text (Utf8.readable k)) (.text v) done) [] =
      Data.ofTable a.readable.modelAliases := by
  suffices h : ∀ done, a.modelAliases.foldl
      (fun done (k, v) => Data.put (.text (Utf8.readable k)) (.text v) done) (Data.ofTable done) =
        Data.ofTable ((a.modelAliases.map fun (k, v) => (Utf8.readable k, v)).foldl
          (fun done (k, v) => Keyed.assign k v done) done) from h []
  induction a.modelAliases with
  | nil => intro done; rfl
  | cons entry rest ih =>
    intro done
    obtain ⟨k, v⟩ := entry
    simp only [List.map_cons, List.foldl_cons, Data.put_ofTable]
    exact ih _

theorem choice_toText (k : AgentKind) : choice AgentKind.names (.text k.toText) = .ok k := by
  cases k <;> decide +kernel

/-- Of an agent that is written out, only the names of its aliases are read differently. -/
theorem ofData_toData {a : AgentConfig} (h : 30 ≤ a.timeout) : ofData a.toData = .ok a.readable := by
  have haliases : textMap (.map (Data.ofTable a.readable.modelAliases)) =
      .ok a.readable.modelAliases := by
    rw [textMap_ofTable]
    exact congrArg _ (Keyed.ofPairs_of_nodup (Keyed.nodup_ofPairs _))
  rw [toData, aliases_toData]
  refine and_ok (and_ok (and_ok (and_ok (and_ok (and_ok (map_ok ?kind) ?binary) ?defaultModel)
    ?modelAliases) ?timeout) ?extraArgs) ?script
  case kind => exact defaulted_named rfl (choice_toText a.kind)
  case binary => exact defaulted_named rfl rfl
  case defaultModel => exact defaulted_named rfl rfl
  case modelAliases => exact defaulted_named rfl haliases
  case timeout => exact defaulted_named rfl (atLeast_int h)
  case extraArgs => exact defaulted_named rfl (list_texts a.extraArgs)
  case script => exact defaulted_named rfl (list_texts a.script)

theorem isReadable_of_readable (a : AgentConfig) :
    ∀ name ∈ a.readable.modelAliases.map Prod.fst, Utf8.IsReadable name := by
  intro name hname
  obtain ⟨_, hentry, rfl⟩ := List.mem_map.1 (Keyed.mem_keys_ofPairs.1 hname)
  obtain ⟨⟨k, v⟩, -, rfl⟩ := List.mem_map.1 hentry
  exact Utf8.isReadable_readable k

theorem readable_eq_self {a : AgentConfig} (h : (a.modelAliases.map Prod.fst).Nodup) :
    a.readable = a ↔ ∀ name ∈ a.modelAliases.map Prod.fst, Utf8.IsReadable name := by
  constructor
  · intro hsame
    exact hsame ▸ isReadable_of_readable a
  · intro hreadable
    have hmap : a.modelAliases.map (fun (k, v) => (Utf8.readable k, v)) = a.modelAliases := by
      conv_rhs => rw [← List.map_id a.modelAliases]
      refine List.map_congr_left fun entry hentry => ?_
      have hname := Utf8.readable_eq_self.2 (hreadable entry.1 (List.mem_map_of_mem hentry))
      exact Prod.ext hname rfl
    rw [readable, hmap, Keyed.ofPairs_of_nodup h]

end AgentConfig

theorem CheckerConfig.ofData_toData {k : CheckerConfig} (h : isExtension k.extension = true) :
    ofData k.toData = .ok k := by
  refine and_ok (and_ok (and_ok (map_ok ?extension) ?command) ?args) ?enabled
  case extension => exact required_named rfl (ensure_eq_ok.2 ⟨rfl, h⟩)
  case command => exact required_named rfl rfl
  case args => exact defaulted_named rfl (list_texts k.args)
  case enabled => exact defaulted_named rfl rfl

namespace Config

/-- A well-formed configuration that is written out is accepted, and only the names of its model
aliases are read differently. -/
theorem ofData_toData {c : Config} (h : c.WellFormed) : ofData c.toData = .ok c.readable := by
  have hcheckers : CheckerConfig.table (.list (c.checkers.map CheckerConfig.toData)) =
      .ok c.checkers := by
    refine ensure_eq_ok.2 ⟨list_map fun k hk => ?_, CheckerConfig.distinct_iff.2 h.distinct⟩
    exact CheckerConfig.ofData_toData (CheckerConfig.isExtension_iff.2 (h.extensions k hk))
  refine and_ok (and_ok (and_ok (and_ok (and_ok (and_ok (map_ok ?version) ?language) ?agent)
    ?checkers) ?checkTimeout) ?maxRounds) ?guide
  case version => exact defaulted_named rfl rfl
  case language => exact defaulted_named rfl c.language.ofData_toData
  case agent => exact defaulted_named rfl (AgentConfig.ofData_toData h.agent.timeout)
  case checkers => exact defaulted_named rfl hcheckers
  case checkTimeout => exact defaulted_named rfl (atLeast_int h.checkTimeout)
  case maxRounds =>
    refine defaulted_named rfl ?_
    cases hrounds : c.maxRounds with
    | none => rfl
    | some n => exact map_ok (atLeast_int (h.maxRounds n hrounds))
  case guide =>
    refine defaulted_named rfl ?_
    cases hguide : c.guide with
    | none => rfl
    | some p => exact map_ok (congrArg _ (Path.ofText_toText (h.guide p hguide)))

theorem toData_readable (c : Config) : c.readable.toData = c.toData := by
  have hagain : c.agent.readable.readable = c.agent.readable :=
    (AgentConfig.readable_eq_self (Keyed.nodup_ofPairs _)).2 c.agent.isReadable_of_readable
  have hagent : c.agent.readable.toData = c.agent.toData := by
    rw [AgentConfig.toData, AgentConfig.aliases_toData, hagain, AgentConfig.toData,
      AgentConfig.aliases_toData]
    rfl
  rw [toData, toData, readable, hagent]

theorem readable_eq_self {c : Config} (h : c.WellFormed) :
    c.readable = c ↔ ∀ name ∈ c.agent.modelAliases.map Prod.fst, Utf8.IsReadable name := by
  rw [← AgentConfig.readable_eq_self h.agent.aliases]
  exact ⟨fun h => congrArg Config.agent h, fun h => by rw [readable, h]⟩

/-- Validation leads to well-formed configurations and leaves them as they are. What is accepted is
well formed; written out it is accepted again, as the same configuration up to lone surrogates in
the names of model aliases, which are written in a readable form, and the document stays the same
from then on. The table of checkers has one entry for each enabled checker, with its command and its
arguments, and none for the others. -/
theorem ofData_retracts (d : Data) (c : Config) (h : ofData d = .ok c) :
    c.WellFormed ∧ ofData c.toData = .ok c.readable ∧ c.readable.toData = c.toData ∧
    (ofData c.toData = .ok c ↔
      ∀ name ∈ c.agent.modelAliases.map Prod.fst, Utf8.IsReadable name) ∧
    (CheckerTable.ofConfig c).checkers.map Prod.fst = c.enabledCheckers.map (·.extension) ∧
    ∀ k ∈ c.checkers, (CheckerTable.ofConfig c).checkers.lookup k.extension =
      if k.enabled then some ⟨k.command, k.args, k.command⟩ else none := by
  have hformed := wellFormed_of_ofData h
  have hagain := ofData_toData hformed
  refine ⟨hformed, hagain, toData_readable c, ?_, ?_, fun k hk => ?_⟩
  · rw [hagain, Except.ok.injEq, readable_eq_self hformed]
  · rw [CheckerTable.checkers_ofConfig hformed, List.map_map]
    rfl
  · cases hon : k.enabled with
    | true => exact CheckerTable.lookup_enabled hformed hk hon
    | false => exact CheckerTable.lookup_disabled hformed hk hon

/-- A document with numbers, truth values and a path in other spellings, and a checker that is off. -/
def spelled : Data := .object [
  ("agent", .object [
    ("timeout", .text " +0_45.0 "),
    ("model_aliases", .map [(.text "s", .text "small")])]),
  ("checkers", .list [
    .object [("extension", .text ".x"), ("command", .text "check"), ("enabled", .int 1)],
    .object [("extension", .text ".y"), ("command", .text "check"), ("enabled", .text "Off")]]),
  ("max_rounds", .bool true),
  ("guide_path", .text "//a/./b//c/")]

theorem ofData_retracts_spelled : ∃ c, ofData spelled = .ok c ∧ c.agent.timeout = 45 ∧
    c.agent.modelAliases = [(Text.ofString "s", Text.ofString "small")] ∧
    c.guide = some ⟨.doubleRoot, ["a", "b", "c"]⟩ ∧ ofData c.toData = .ok c ∧
    (CheckerTable.ofConfig c).checkers.map Prod.fst = [Text.ofString ".x"] := by
  obtain ⟨c, hc, htimeout, haliases, hguide, henabled⟩ : ∃ c, ofData spelled = .ok c ∧
      c.agent.timeout = 45 ∧ c.agent.modelAliases = [(Text.ofString "s", Text.ofString "small")] ∧
      c.guide = some ⟨.doubleRoot, ["a", "b", "c"]⟩ ∧
      c.enabledCheckers.map (·.extension) = [Text.ofString ".x"] := by
    exact ⟨_, rfl, by decide +kernel, by decide +kernel, by decide +kernel, by decide +kernel⟩
  obtain ⟨-, -, -, hagain, htable, -⟩ := ofData_retracts spelled c hc
  refine ⟨c, hc, htimeout, haliases, hguide, hagain.2 ?_, htable.trans henabled⟩
  rw [haliases]
  decide +kernel

def loneSurrogate : Data := .object [
  ("agent", .object [("model_aliases", .map [(.text [.surrogate 0], .text "x")])])]

/-- It is accepted, and its configuration is not the one that is read from what it is written as. -/
theorem ofData_loses_surrogate : ∃ c, ofData loneSurrogate = .ok c ∧ ofData c.toData ≠ .ok c := by
  refine ⟨_, rfl, ?_⟩
  decide +kernel

end Config

end Redraft
