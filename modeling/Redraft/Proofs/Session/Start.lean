import Redraft.Proofs.Checker
import Redraft.Proofs.Prompt.System
import Redraft.Proofs.Session.Effect
import Redraft.Proofs.Source.Imports
import Redraft.Session.Start

/-!
How a session starts. The target, its imports and the first check are read in this order. The first
of them that fails is the end, and nothing was asked by then; if none does, the first prompt is made
of what they gave.
-/
namespace Redraft

variable {σ ω : Type}

theorem Prompt.checkBlock_text {o : Outcome} (h : o.diagnostics? ≠ some []) :
    checkBlock o.text = (Block.check (o.diagnostics?.getD noErrors)).render := by
  unfold checkBlock Outcome.text
  cases hd : o.diagnostics? with
  | none => rfl
  | some t =>
    have ht : t ≠ [] := fun ht => h (ht ▸ hd)
    simp [ht]

def RunState.opening (target : Path) (prompt : Text) (check : Bool) (maxRounds : Option Nat)
    (f : Files) (o : σ) : RunState σ :=
  ⟨⟨target, prompt, check, maxRounds, 0, 0, 0⟩, f, o, []⟩

namespace Setup

variable {u : Setup σ} {f : Files} {target : Path} {request : Text} {check : Bool} {o : σ}

def checkSights (u : Setup σ) (f : Files) (target : Path) (check : Bool) (o : σ) : List Sight :=
  if check then [.checked f target (u.check f target o).1] else []

def startSights (u : Setup σ) (f : Files) (target : Path) (check : Bool) (o : σ) : List Sight :=
  match u.sources f target with
  | .error _ => []
  | .ok _ => u.checkSights f target check o

theorem firstCheck_traced (u : Setup σ) (f : Files) (target : Path) (check : Bool) (o : σ)
    (trace : List Sight) : u.traced.firstCheck f target check (o, trace) =
      ((u.firstCheck f target check o).1, (u.firstCheck f target check o).2,
        trace ++ u.checkSights f target check o) := by
  cases check with
  | false => exact congrArg (fun t => (_, _, t)) (List.append_nil trace).symm
  | true => rfl

theorem start_traced (u : Setup σ) (maxRounds : Option Nat) (f : Files) (target : Path)
    (request : Text) (check : Bool) (o : σ) (trace : List Sight) :
    u.traced.start maxRounds f target request check (o, trace) =
      ((u.start maxRounds f target request check o).1,
        (u.start maxRounds f target request check o).2,
        trace ++ u.startSights f target check o) := by
  have hsources : u.traced.sources f target = u.sources f target := rfl
  unfold start startSights
  rw [hsources, firstCheck_traced]
  cases u.sources f target with
  | error e => exact congrArg (fun t => (_, _, t)) (List.append_nil trace).symm
  | ok found =>
    dsimp only
    cases u.firstCheck f target check o with
    | mk diagnostics o' => cases diagnostics <;> rfl

/-- A whole session that is traced is the session, and its trace is what was seen of its start and of
its rounds. -/
theorem runFrom_traced (u : Setup σ) (n : Nat) (maxRounds : Option Nat) (f : Files) (target : Path)
    (request : Text) (check : Bool) (o : σ) :
    u.traced.runFrom n maxRounds f target request check (o, []) =
      match u.start maxRounds f target request check o with
      | (.error e, o') => some (.error e, f, o', u.startSights f target check o)
      | (.ok session, o') => (u.run n ⟨session, f, o', []⟩).map fun (x, s) =>
        (x, s.files, s.outside, u.startSights f target check o ++ s.sights u.system) := by
  unfold runFrom
  rw [start_traced, List.nil_append]
  cases u.start maxRounds f target request check o with
  | mk session o' =>
    cases session with
    | error e => rfl
    | ok session =>
      have htraced := run_traced u n (s := ⟨session, f, o', []⟩) rfl
        (u.startSights f target check o)
      change (u.traced.run n (RunState.joined _ ⟨session, f, o', []⟩)).map _ = _
      rw [htraced, Option.map_map]
      rfl

/-- How a session starts: with an error or with its first prompt, with what was seen by then, and
with the state outside after it. -/
inductive Starts (u : Setup σ) (f : Files) (target : Path) (request : Text) (check : Bool) (o : σ) :
    Except Failure Text → List Sight → σ → Prop
  | unread {e : Failure} (hread : f.readText target = .error e) :
      Starts u f target request check o (.error e) [] o
  /-- An import cannot be loaded, and those before it can. -/
  | unloaded {content : Text} {before after : List Text} {name : Text} {e : Failure}
      (hread : f.readText target = .ok content)
      (himports : u.language.imports content = before ++ name :: after)
      (hbefore : ∀ n ∈ before, ∃ t, Source.Loads f target n (.ok t))
      (hname : Source.Loads f target name (.error e)) :
      Starts u f target request check o (.error e) [] o
  | uncheckable {content : Text} {blocks : List Text} {e : Failure}
      (hread : f.readText target = .ok content)
      (hblocks : Source.Blocks f target (u.language.imports content) blocks) (hcheck : check = true)
      (hfails : (u.check f target o).1 = .error e) :
      Starts u f target request check o (.error e) [.checked f target (.error e)]
        (u.check f target o).2
  | unchecked {content : Text} {blocks : List Text} (hread : f.readText target = .ok content)
      (hblocks : Source.Blocks f target (u.language.imports content) blocks) (hcheck : check = false) :
      Starts u f target request check o
        (.ok (Text.join "\n\n" (blocks ++ [(Block.file target.toText content none true).render,
          (Block.request request).render])))
        [] o
  /-- The check shows its diagnostics, which are not empty; without any it shows that there are none. -/
  | checked {content : Text} {blocks : List Text} {outcome : Outcome}
      (hread : f.readText target = .ok content)
      (hblocks : Source.Blocks f target (u.language.imports content) blocks) (hcheck : check = true)
      (houtcome : (u.check f target o).1 = .ok outcome) (hsaid : outcome.diagnostics? ≠ some []) :
      Starts u f target request check o
        (.ok (Text.join "\n\n" (blocks ++ [(Block.file target.toText content none true).render,
          (Block.request request).render,
          (Block.check (outcome.diagnostics?.getD Prompt.noErrors)).render])))
        [.checked f target (.ok outcome)] (u.check f target o).2

theorem starts_start (hsaid : ∀ outcome, (u.check f target o).1 = .ok outcome →
    outcome.diagnostics? ≠ some []) (maxRounds : Option Nat) :
    Starts u f target request check o
      ((u.start maxRounds f target request check o).1.map Session.pending)
      (u.startSights f target check o) (u.start maxRounds f target request check o).2 := by
  unfold start startSights
  cases hsources : u.sources f target with
  | error e =>
    rcases bind_eq_error.1 hsources with hread | ⟨content, hread, hsources⟩
    · exact .unread hread
    · rcases bind_eq_error.1 hsources with himports | ⟨imports, -, hsources⟩
      · obtain ⟨before, name, after, himports, hbefore, hname⟩ :=
          Source.importBlocks_eq_error himports
        exact .unloaded hread himports hbefore hname
      · cases hsources
  | ok found =>
    obtain ⟨content, hread, hsources⟩ := bind_eq_ok.1 hsources
    obtain ⟨imports, himports, hsources⟩ := bind_eq_ok.1 hsources
    cases hsources
    obtain ⟨blocks, hblocks, rfl⟩ := Source.importBlocks_eq_ok himports
    unfold firstCheck checkSights
    dsimp only
    have hfirst := Prompt.first_eq_join target.toText content request (Source.Blocks.ne_nil hblocks)
    cases check with
    | false =>
      rw [if_neg Bool.false_ne_true, if_neg Bool.false_ne_true]
      dsimp only [Except.map]
      rw [hfirst]
      exact .unchecked hread hblocks rfl
    | true =>
      rw [if_pos rfl, if_pos rfl]
      cases hcheck : (u.check f target o).1 with
      | error e => exact .uncheckable hread hblocks rfl hcheck
      | ok outcome =>
        dsimp only [Except.map]
        rw [hfirst]
        have hchecked : Starts u f target request true o _ _ _ :=
          .checked hread hblocks rfl hcheck (hsaid outcome hcheck)
        rw [← Prompt.checkBlock_text (hsaid outcome hcheck)] at hchecked
        exact hchecked

theorem session_of_start {maxRounds : Option Nat} {session : Session}
    (h : (u.start maxRounds f target request check o).1 = .ok session) :
    session = ⟨target, session.pending, check, maxRounds, 0, 0, 0⟩ := by
  unfold start at h
  split at h
  · cases h
  · split at h
    · cases h
    · cases h
      rfl

theorem isSpent_opening {prompt : Text} {maxRounds : Option Nat} (h : maxRounds ≠ some 0) :
    isSpent (RunState.opening target prompt check maxRounds f o).session = false := by
  cases maxRounds with
  | none => rfl
  | some m =>
    have hm : 0 < m := Nat.pos_of_ne_zero fun hm => h (congrArg some hm)
    exact decide_eq_false (Nat.not_le_of_gt hm)

theorem traced_asks_first {s : RunState σ} (hlog : s.log = []) (hopen : isSpent s.session = false)
    (trace : List Sight) :
    (∃ reply rest, (u.traced.round (s.joined trace)).2.outside.2 =
      trace ++ .asked s.files u.system s.session.pending reply :: rest) ∧
    ∀ n y p, u.traced.run n (s.joined trace) = some (y, p) → ∃ reply rest,
      p.outside.2 = trace ++ .asked s.files u.system s.session.pending reply :: rest := by
  constructor
  · obtain ⟨reply, rest, hsights⟩ := exists_sights_eq_asked (u := u) hlog (log_ask_round hopen)
    rw [round_traced u hlog]
    exact ⟨reply, rest, congrArg (trace ++ ·) hsights⟩
  · intro n y p hrun
    rw [← RunState.joined_forget p] at hrun
    obtain ⟨hplain, htrace⟩ := run_of_traced hlog hrun
    obtain ⟨reply, rest, hsights⟩ := exists_sights_eq_asked hlog
      ((log_ask_round hopen).trans (log_round_of_run hplain))
    exact ⟨reply, rest, htrace.trans (congrArg (trace ++ ·) hsights)⟩

/-- A session starts whole or not at all. If the target, one of its imports or the first check fails,
the session ends with the error of the first of them that does, the agent is not called, the files are
as they were, and nothing is checked unless it is the check that fails. If none does, the first prompt
is made of the imports, the target, the request and, with checking on, what the check says, and the
first thing that the rounds do is to ask with it. -/
theorem session_starts_whole (h : Host ω) (hexplains : h.Explains) (agent : Agent (Outside ω))
    (c : Config) (guide : Option Path) (f₀ : Files) (u : Setup (Outside ω))
    (hu : ofConfig h agent c guide f₀ = .ok u) (f : Files) (target : Path) (request : Text)
    (check : Bool) (o : Outside ω) :
    ∃ (x : Except Failure Text) (sights : List Sight) (o' : Outside ω),
      Starts u f target request check o x sights o' ∧
      (∀ e, x = .error e → ∀ n, u.traced.runFrom n c.maxRounds f target request check (o, []) =
        some (.error e, f, o', sights)) ∧
      ∀ prompt, x = .ok prompt →
        (∀ n, u.traced.runFrom n c.maxRounds f target request check (o, []) =
          (u.traced.run n (.opening target prompt check c.maxRounds f (o', sights))).map
            fun (y, s) => (y, s.files, s.outside)) ∧
        (c.maxRounds ≠ some 0 →
          (∃ reply rest,
            (u.traced.round (.opening target prompt check c.maxRounds f (o', sights))).2.outside.2 =
              sights ++ .asked f u.system prompt reply :: rest) ∧
          ∀ n y s, u.traced.run n (.opening target prompt check c.maxRounds f (o', sights)) =
            some (y, s) →
            ∃ reply rest, s.outside.2 = sights ++ .asked f u.system prompt reply :: rest) := by
  have hsaid (outcome : Outcome) (hcheck : (u.check f target o).1 = .ok outcome) :
      outcome.diagnostics? ≠ some [] := by
    obtain ⟨system, -, hu⟩ := bind_eq_ok.1 hu
    cases hu
    exact CheckerTable.diagnostics?_check hexplains.hosted _ _ _ _ hcheck
  refine ⟨_, _, _, starts_start hsaid c.maxRounds, ?_, ?_⟩
  · intro e he n
    rw [runFrom_traced]
    cases hstart : u.start c.maxRounds f target request check o with
    | mk session o' =>
      rw [hstart] at he
      cases session with
      | ok session => cases he
      | error e' =>
        cases he
        rfl
  · intro prompt hprompt
    refine ⟨fun n => ?_, fun hmax => ?_⟩
    · cases hstart : u.start c.maxRounds f target request check o with
      | mk session o' =>
        rw [hstart] at hprompt
        cases session with
        | error e => cases hprompt
        | ok session =>
          cases hprompt
          have hsession := session_of_start (congrArg Prod.fst hstart)
          unfold runFrom
          rw [start_traced, hstart, List.nil_append, RunState.opening, ← hsession]
    · exact traced_asks_first (s := .opening target prompt check c.maxRounds f _) rfl
        (isSpent_opening hmax) _

/-- What runs without a configuration have in common on a host, with replies written in advance. -/
def standard (h : Host ω) : Setup (Outside ω) where
  agent := Outside.scripted
  system := Prompt.unguided
  language := ({} : Config).language
  room := h.room
  check := (CheckerTable.ofConfig {}).check (Outside.hosted h)
  refuses := (Outside.hosted h).refuses

theorem ofConfig_standard (h : Host ω) (f : Files) :
    ofConfig h Outside.scripted {} none f = .ok (standard h) :=
  bind_eq_ok.2 ⟨Prompt.unguided, Prompt.system_none f, rfl⟩

def plain : Files := ⟨⟨[(["a.hs"], .file [120] 0o640)]⟩, []⟩

def plainPrompt : Text :=
  "<FILE path=\"a.hs\" current>\nx\n</FILE>\n\n<REQUEST>\ngo\n</REQUEST>\n\n<CHECK>\nCommand not found: ghc\n</CHECK>"

/-- A session on a system without the compiler that its first check runs. -/
theorem session_starts_whole_plain : (Host.system ⟨9, 9, 9⟩).Explains ∧
    ofConfig (Host.system ⟨9, 9, 9⟩) Outside.scripted {} none plain =
      .ok (standard (Host.system ⟨9, 9, 9⟩)) ∧
    ∃ sights o' reply rest,
      ((standard (Host.system ⟨9, 9, 9⟩)).traced.round
        (.opening (.ofText "a.hs") plainPrompt true none plain (o', sights))).2.outside.2 =
        sights ++ .asked plain (standard (Host.system ⟨9, 9, 9⟩)).system plainPrompt reply :: rest := by
  have hexplains : (Host.system ⟨9, 9, 9⟩).Explains := Host.explains_system
  have hconfig := ofConfig_standard (Host.system ⟨9, 9, 9⟩) plain
  refine ⟨hexplains, hconfig, ?_⟩
  obtain ⟨x, sights, o', hstarts, -, hprompt⟩ := session_starts_whole (Host.system ⟨9, 9, 9⟩) hexplains
    Outside.scripted {} none plain _ hconfig plain (.ofText "a.hs") "go" true ⟨[], ()⟩
  have hread : plain.readText (.ofText "a.hs") = .ok (Text.ofString "x") := by rfl
  have hnone : (standard (Host.system ⟨9, 9, 9⟩)).language.imports (Text.ofString "x") = [] := by decide
  have hcheck : ((standard (Host.system ⟨9, 9, 9⟩)).check plain (.ofText "a.hs") ⟨[], ()⟩).1 =
      .ok (.diagnostics "Command not found: ghc" none) := by rfl
  have hx : x = .ok plainPrompt := by
    cases hstarts with
    | unread h => cases hread.symm.trans h
    | unloaded h himports =>
      cases hread.symm.trans h
      exact absurd (hnone.symm.trans himports) (by simp)
    | uncheckable h hblocks hon hfails => cases hcheck.symm.trans hfails
    | unchecked h hblocks hoff => cases hoff
    | checked h hblocks hon houtcome =>
      cases hread.symm.trans h
      cases hcheck.symm.trans houtcome
      cases hblocks
      exact congrArg Except.ok (by decide)
  obtain ⟨reply, rest, hasked⟩ := ((hprompt _ hx).2 (by decide)).1
  exact ⟨sights, o', reply, rest, hasked⟩

end Setup

end Redraft
