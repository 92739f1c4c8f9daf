import Redraft.Proofs.Checker
import Redraft.Proofs.Config.WellFormed

/-!
Which checkers are reached. A checker is looked up under the last dot of a name and what stands behind
it, so it is run on the files with its extension if that has one dot, and on none if it has more.
-/
namespace Redraft

variable {σ : Type}

namespace Outcome

theorem ofOutput_ne_notApplicable (o : Output) : ofOutput o ≠ .notApplicable := by
  unfold ofOutput
  dsimp only
  split_ifs <;> simp

theorem ofError_ne_notApplicable (timeout : Option Seconds) (e : CommandError) :
    ofError timeout e ≠ .notApplicable := by
  cases e <;> simp [ofError]

end Outcome

theorem Checker.run_ne_notApplicable (h : Host σ) (c : Checker) (timeout : Option Seconds) (f : Files)
    (p : Path) (s : σ) : (c.run h timeout f p s).1 ≠ .ok .notApplicable := by
  rw [run_fst]
  unfold conclude
  split
  · simpa using Outcome.ofOutput_ne_notApplicable _
  · simpa using Outcome.ofError_ne_notApplicable _ _
  · simp

namespace CheckerTable

variable {c : Config} {k : CheckerConfig} {p : Path} {stem : Text}

theorem suffix_of_extension (hc : c.WellFormed) (hk : k ∈ c.checkers)
    (hdot : .scalar '.' ∉ k.extension.tail) (hstem : stem ≠ [])
    (hname : p.name = stem ++ k.extension) : p.suffix = k.extension := by
  obtain ⟨⟨ending, hext⟩, hlen⟩ := hc.extensions k hk
  have hcons : k.extension = .scalar '.' :: ending := hext.symm
  rw [hcons] at hname hdot hlen ⊢
  refine Path.suffix_of_name hname hstem ?_ hdot
  rintro rfl
  simp at hlen

/-- What a table has for a path comes from a checker with the ending of the path. -/
theorem exists_of_checkerFor? (hc : c.WellFormed) {x : Checker}
    (h : (ofConfig c).checkerFor? p = some x) :
    ∃ k ∈ c.checkers, k.enabled = true ∧ x = .ofConfig k ∧ k.extension = p.suffix := by
  have hmem := Keyed.mem_of_lookup h
  rw [checkers_ofConfig hc] at hmem
  obtain ⟨k, hk, heq⟩ := List.mem_map.1 hmem
  obtain ⟨hk, hon⟩ := List.mem_filter.1 hk
  obtain ⟨hext, rfl⟩ := Prod.mk.inj heq
  exact ⟨k, hk, hon, rfl, hext⟩

/-- In a configuration that is accepted, an enabled checker whose extension has one dot is run on every
file with that extension, with its command, its arguments and the path; there is no other run, and
there is an outcome that is about the file. A checker whose extension has more dots is run on no file:
what is found for a path is always another. -/
theorem checker_reached {d : Data} (hd : Config.ofData d = .ok c) (hk : k ∈ c.checkers)
    (hon : k.enabled = true) :
    (.scalar '.' ∉ k.extension.tail → ∀ (p : Path) (stem : Text), stem ≠ [] →
      p.name = stem ++ k.extension → ∀ (h : Host σ) (f : Files) (s : σ),
        (ofConfig c).checkerFor? p = some ⟨k.command, k.args, k.command⟩ ∧
        (let timeout := some (.whole c.checkTimeout)
          let ran := h.run f ⟨k.command :: k.args ++ [p.toText], timeout, .none, .none⟩ s
          (ofConfig c).check h f p s = (Checker.conclude timeout ran.1, ran.2)) ∧
        ((ofConfig c).check h f p s).1 ≠ .ok .notApplicable) ∧
    (.scalar '.' ∈ k.extension.tail → ∀ (p : Path) (x : Checker),
      (ofConfig c).checkerFor? p = some x →
        ∃ k' ∈ c.checkers, k' ≠ k ∧ x = .ofConfig k' ∧ k'.extension = p.suffix) := by
  have hc := Config.wellFormed_of_ofData hd
  refine ⟨fun hdot p stem hstem hname h f s => ?_, fun hdot p x hx => ?_⟩
  · have hfound : (ofConfig c).checkerFor? p = some (.ofConfig k) := by
      rw [checkerFor?, suffix_of_extension hc hk hdot hstem hname]
      exact lookup_enabled hc hk hon
    have hcheck : (ofConfig c).check h f p s =
        (Checker.ofConfig k).run h (ofConfig c).timeout f p s := by
      rw [check, hfound]
    rw [hcheck]
    refine ⟨hfound, ?_, Checker.run_ne_notApplicable _ _ _ _ _ _⟩
    exact Prod.ext (Checker.run_fst _ _ _ _ _ _) (Checker.run_snd _ _ _ _ _)
  · obtain ⟨k', hk', -, hx, hext⟩ := exists_of_checkerFor? hc hx
    refine ⟨k', hk', ?_, hx, hext⟩
    rintro rfl
    rw [hext] at hdot
    exact p.dot_notMem_suffix hdot

def gzip : CheckerConfig := ⟨".gz", "gzip", ["-t"], true⟩

def tar : CheckerConfig := ⟨".tar.gz", "tar", ["-tf"], true⟩

def archives : Data := .object [("checkers", .list [tar.toData, gzip.toData])]

theorem checker_reached_archives : ∃ c, Config.ofData archives = .ok c ∧
    gzip ∈ c.checkers ∧ gzip.enabled = true ∧ .scalar '.' ∉ gzip.extension.tail ∧
    ((ofConfig c).check (.playback ⟨9, 9, 9⟩) locked ⟨.relative, ["b.gz"]⟩ ⟨[.missing], []⟩).2.calls.map
      (·.1.argv) = [[Text.ofString "gzip", "-t", "b.gz"]] := by
  obtain ⟨c, hc, hmem⟩ : ∃ c, Config.ofData archives = .ok c ∧ gzip ∈ c.checkers :=
    ⟨_, rfl, by decide +kernel⟩
  obtain ⟨-, hcheck, -⟩ := (checker_reached hc hmem rfl).1 (by decide) ⟨.relative, ["b.gz"]⟩ "b"
    (by decide) rfl (.playback ⟨9, 9, 9⟩) locked ⟨[.missing], []⟩
  exact ⟨c, hc, hmem, rfl, by decide, by rw [hcheck]; rfl⟩

/-- A file with the extension that has two dots is checked by the other checker. -/
theorem checker_missed_archives : ∃ c, Config.ofData archives = .ok c ∧
    tar ∈ c.checkers ∧ tar.enabled = true ∧
    Path.name ⟨.relative, ["a.tar.gz"]⟩ = Text.ofString "a" ++ tar.extension ∧
    (ofConfig c).checkerFor? ⟨.relative, ["a.tar.gz"]⟩ = some (.ofConfig gzip) :=
  ⟨_, rfl, by decide +kernel, rfl, rfl, by decide +kernel⟩

end CheckerTable

end Redraft
