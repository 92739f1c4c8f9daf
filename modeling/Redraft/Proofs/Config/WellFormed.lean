import Redraft.Checker
import Redraft.Config.Read
import Redraft.Proofs.Path
import Redraft.Proofs.Schema

/-!
Well-formed configurations. What is read is well formed, and then no checker is lost on the way to
the table of checkers.
-/
namespace Redraft

open Checked Schema

/-- What validation makes sure of for an agent. -/
structure AgentConfig.WellFormed (a : AgentConfig) : Prop where
  timeout : 30 ≤ a.timeout
  aliases : (a.modelAliases.map Prod.fst).Nodup

/-- What validation makes sure of for a configuration. -/
structure Config.WellFormed (c : Config) : Prop where
  agent : c.agent.WellFormed
  checkTimeout : 1 ≤ c.checkTimeout
  maxRounds : ∀ n ∈ c.maxRounds, 1 ≤ n
  extensions : ∀ k ∈ c.checkers, Text.ofString "." <+: k.extension ∧ 2 ≤ k.extension.length
  distinct : (c.checkers.map (·.extension)).Nodup
  guide : ∀ p ∈ c.guide, p.Normal

variable {d : Data} {f : List (Data × Data)}

namespace AgentConfig

theorem wellFormed_default : ({} : AgentConfig).WellFormed := ⟨by decide, by decide⟩

theorem nodup_of_textMap {table : List (Text × Text)} (h : textMap d = .ok table) :
    (table.map Prod.fst).Nodup := by
  cases d with
  | map fields =>
    obtain ⟨pairs, -, rfl⟩ := map_eq_ok.1 h
    exact Keyed.nodup_ofPairs pairs
  | _ => cases h

theorem wellFormed_of_ofData {a : AgentConfig} (h : ofData d = .ok a) : a.WellFormed := by
  cases d with
  | map fields =>
    obtain ⟨_, script, h6, -, rfl⟩ := and_eq_ok.1 h
    obtain ⟨_, extraArgs, h5, -, rfl⟩ := and_eq_ok.1 h6
    obtain ⟨_, timeout, h4, htimeout, rfl⟩ := and_eq_ok.1 h5
    obtain ⟨_, aliases, h3, haliases, rfl⟩ := and_eq_ok.1 h4
    obtain ⟨_, model, h2, -, rfl⟩ := and_eq_ok.1 h3
    obtain ⟨_, binary, h1, -, rfl⟩ := and_eq_ok.1 h2
    obtain ⟨kind, -, rfl⟩ := map_eq_ok.1 h1
    exact ⟨of_defaulted htimeout wellFormed_default.timeout fun _ => le_of_atLeast,
      of_defaulted (p := fun t => (t.map Prod.fst).Nodup) haliases wellFormed_default.aliases
        fun _ => nodup_of_textMap⟩
  | _ => cases h

end AgentConfig

namespace CheckerConfig

theorem distinct_iff {ks : List CheckerConfig} :
    distinct ks = true ↔ (ks.map (·.extension)).Nodup := by
  induction ks with
  | nil => simp [distinct]
  | cons k rest ih =>
    simp only [distinct, Bool.and_eq_true, ih, List.map_cons, List.nodup_cons, List.all_eq_true,
      decide_eq_true_eq, List.mem_map, not_exists, not_and]

theorem isExtension_iff {t : Text} :
    isExtension t = true ↔ Text.ofString "." <+: t ∧ 2 ≤ t.length := by
  simp [isExtension]

theorem isExtension_of_ofData {k : CheckerConfig} (h : ofData d = .ok k) :
    isExtension k.extension = true := by
  cases d with
  | map fields =>
    obtain ⟨_, enabled, h3, -, rfl⟩ := and_eq_ok.1 h
    obtain ⟨_, args, h2, -, rfl⟩ := and_eq_ok.1 h3
    obtain ⟨_, command, h1, -, rfl⟩ := and_eq_ok.1 h2
    obtain ⟨extension, hextension, rfl⟩ := map_eq_ok.1 h1
    obtain ⟨d, hd⟩ := exists_of_required hextension
    exact (ensure_eq_ok.1 hd).2
  | _ => cases h

theorem extensions_of_table {ks : List CheckerConfig} (h : table d = .ok ks) :
    ∀ k ∈ ks, Text.ofString "." <+: k.extension ∧ 2 ≤ k.extension.length := by
  intro k hk
  obtain ⟨d, hd⟩ := exists_of_list (ensure_eq_ok.1 h).1 k hk
  exact isExtension_iff.1 (isExtension_of_ofData hd)

theorem nodup_of_table {ks : List CheckerConfig} (h : table d = .ok ks) :
    (ks.map (·.extension)).Nodup := distinct_iff.1 (ensure_eq_ok.1 h).2

end CheckerConfig

theorem normal_of_path {p : Path} (h : path d = .ok p) : p.Normal := by
  cases d with
  | text t => exact Except.ok.inj h ▸ Path.normal_ofText t
  | _ => cases h

namespace Config

theorem wellFormed_default : ({} : Config).WellFormed where
  agent := AgentConfig.wellFormed_default
  checkTimeout := by decide
  maxRounds := by simp
  extensions := fun k hk => CheckerConfig.isExtension_iff.1 (by revert k; decide)
  distinct := by decide
  guide := by simp

theorem wellFormed_of_ofData {c : Config} (h : ofData d = .ok c) : c.WellFormed := by
  have hdefault := wellFormed_default
  cases d with
  | map fields =>
    obtain ⟨_, guide, h6, hguide, rfl⟩ := and_eq_ok.1 h
    obtain ⟨_, maxRounds, h5, hrounds, rfl⟩ := and_eq_ok.1 h6
    obtain ⟨_, checkTimeout, h4, htimeout, rfl⟩ := and_eq_ok.1 h5
    obtain ⟨_, checkers, h3, hcheckers, rfl⟩ := and_eq_ok.1 h4
    obtain ⟨_, agent, h2, hagent, rfl⟩ := and_eq_ok.1 h3
    obtain ⟨_, language, h1, -, rfl⟩ := and_eq_ok.1 h2
    obtain ⟨version, -, rfl⟩ := map_eq_ok.1 h1
    exact {
      agent := of_defaulted hagent hdefault.agent fun _ => AgentConfig.wellFormed_of_ofData
      checkTimeout := of_defaulted htimeout hdefault.checkTimeout fun _ => le_of_atLeast
      maxRounds := of_defaulted (p := fun x => ∀ n ∈ x, 1 ≤ n) hrounds hdefault.maxRounds
        fun _ h n hn => (exists_of_optional h n hn).elim fun _ => le_of_atLeast
      extensions := of_defaulted
        (p := fun ks => ∀ k ∈ ks, Text.ofString "." <+: k.extension ∧ 2 ≤ k.extension.length)
        hcheckers hdefault.extensions fun _ => CheckerConfig.extensions_of_table
      distinct := of_defaulted (p := fun ks => (ks.map (·.extension)).Nodup) hcheckers
        hdefault.distinct fun _ => CheckerConfig.nodup_of_table
      guide := of_defaulted (p := fun x => ∀ p ∈ x, p.Normal) hguide hdefault.guide
        fun _ h p hp => (exists_of_optional h p hp).elim fun _ => normal_of_path }
  | _ => cases h

end Config

namespace CheckerTable

variable {c : Config} {k : CheckerConfig}

theorem checkers_ofConfig (h : c.WellFormed) : (ofConfig c).checkers =
    c.enabledCheckers.map fun k => (k.extension, Checker.ofConfig k) := by
  refine Keyed.ofPairs_of_nodup ?_
  rw [List.map_map]
  exact h.distinct.sublist ((List.filter_sublist).map _)

theorem lookup_enabled (h : c.WellFormed) (hk : k ∈ c.checkers) (hon : k.enabled = true) :
    (ofConfig c).checkers.lookup k.extension = some (Checker.ofConfig k) := by
  refine Keyed.lookup_of_mem (Keyed.nodup_ofPairs _) ?_
  rw [checkers_ofConfig h]
  exact List.mem_map_of_mem (List.mem_filter.2 ⟨hk, hon⟩)

theorem lookup_disabled (h : c.WellFormed) (hk : k ∈ c.checkers) (hoff : k.enabled = false) :
    (ofConfig c).checkers.lookup k.extension = Option.none := by
  refine Keyed.lookup_eq_none fun hmem => ?_
  rw [checkers_ofConfig h, List.map_map] at hmem
  obtain ⟨k', hk', heq⟩ := List.mem_map.1 hmem
  obtain ⟨hmem', hon⟩ := List.mem_filter.1 hk'
  -- two checkers with one extension are one checker
  obtain rfl : k' = k := List.inj_on_of_nodup_map h.distinct hmem' hk heq
  rw [hoff] at hon
  cases hon

end CheckerTable

end Redraft
