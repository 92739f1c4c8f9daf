import Redraft.CommandLine.Run
import Redraft.Proofs.Agent.Claude
import Redraft.Proofs.Config.Load
import Redraft.Proofs.Prompt.System
import Redraft.Proofs.Reply.Limit
import Redraft.Proofs.Session.Ending
import Redraft.Proofs.Session.Failing

/-!
What the command line reports. Every failure of a run is reported as an error but for a few kinds,
which end the program.
-/
namespace Redraft

/-- What ends the program without a report. -/
inductive Failure.Escapes : Failure → Prop
  /-- The reader of the configuration chokes on it: on a scalar without a value of its type, or on
  collections without end. -/
  | config {error : ConfigError} (h : (Failure.config error).isPlain = false) :
      Escapes (.config error)
  | nulInPath : Escapes .nulInPath
  | unencodable (fault : Utf8.Unencodable) : Escapes (.unencodable fault)
  | linkLoop (path : Text) : Escapes (.linkLoop path)
  | linkDepth : Escapes .linkDepth
  | longTime (reason : Text) : Escapes (.longTime reason)
  | payload {payload : Text} {failure : Json.Failure} (h : failure.Limit) :
      Escapes (.reply (.notJson payload failure))
  | output {failure : Json.Failure} (h : failure.Limit) : Escapes (.json failure)

namespace Failure

/-- What a run can fail with: it is reported, or it is one of those that escape. -/
def Known (e : Failure) : Prop := e.isReported = true ∨ e.Escapes

theorem Escapes.isReported {e : Failure} (h : e.Escapes) : e.isReported = false := by
  cases h with
  | payload h => cases h <;> rfl
  | _ => rfl

theorem Known.isReported_iff {e : Failure} (h : e.Known) : e.isReported = true ↔ ¬ e.Escapes := by
  constructor
  · intro hreported hescapes
    rw [hescapes.isReported] at hreported
    cases hreported
  · exact h.resolve_right

theorem OfFiles.known {e : Failure} (h : e.OfFiles) : e.Known := by
  cases h with
  | file error path => exact .inl rfl
  | write error => exact .inl rfl
  | nulInPath => exact .inr .nulInPath
  | unencodable fault => exact .inr (.unencodable fault)
  | undecodable fault => exact .inl rfl
  | linkLoop path => exact .inr (.linkLoop path)
  | linkDepth => exact .inr .linkDepth

theorem OfHost.known {e : Failure} (h : e.OfHost) : e.Known := by
  cases h with
  | file error path => exact .inl rfl
  | nulInPath => exact .inr .nulInPath
  | unencodable fault => exact .inr (.unencodable fault)
  | longTime reason => exact .inr (.longTime reason)

theorem known_reply (e : ReplyError) : (Failure.reply e).Known := by
  cases e with
  | notJson payload failure =>
    cases failure with
    | malformed cause position => exact .inl rfl
    | longInteger digits => exact .inr (.payload (.longInteger digits))
    | tooDeep nest => exact .inr (.payload (.tooDeep nest))
  | _ => exact .inl rfl

end Failure

open Failure (Known)

theorem Setup.covers_known : Setup.Covers Known where
  files _ he := he.known
  dependency _ _ _ := .inl rfl
  reply := Failure.known_reply
  roundLimit _ _ := .inl rfl

variable {ω : Type} {h : Host ω}

theorem Outside.scripted_fails (f : Files) (system prompt : Text) (s : Outside ω) :
    FailsWith Known (Outside.scripted.ask f system prompt s).1 := by
  obtain ⟨replies, host⟩ := s
  cases replies with
  | nil => exact .error (.inl rfl)
  | cons reply rest => exact .ok reply

theorem Outside.agent_fails (hh : h.Ordinary) (c : AgentConfig) (model : Option Text) (f : Files)
    (system prompt : Text) (s : Outside ω) :
    FailsWith Known ((Outside.agent h c model).ask f system prompt s).1 := by
  unfold Outside.agent
  cases c.kind with
  | fake => exact Outside.scripted_fails f system prompt s
  | claudeCode =>
    refine (Claude.ask_fails hh.hosted _ f system prompt s).mono fun e he => ?_
    rcases he with ⟨error, rfl⟩ | he | ⟨failure, rfl, hlimit⟩
    · exact .inl rfl
    · exact he.known
    · exact .inr (.output hlimit)

theorem Setup.failsWithin_of_ofConfig (hh : h.Ordinary) {c : Config} {model : Option Text}
    {guide : Option Path} {f : Files} {u : Setup (Outside ω)}
    (hu : Setup.ofConfig h (Outside.agent h c.agent model) c guide f = .ok u) :
    Setup.FailsWithin Known u := by
  obtain ⟨system, -, hsystem⟩ := bind_eq_ok.1 hu
  cases hsystem
  exact ⟨Outside.agent_fails hh c.agent model,
    fun f p s => (CheckerTable.check_fails hh.hosted _ f p s).mono fun e he => he.known⟩

theorem CheckerTable.replies_check {t : CheckerTable} (f : Files) (p : Path) (o : Outside ω) :
    (t.check (Outside.hosted h) f p o).2.replies = o.replies := by
  unfold check
  cases t.checkerFor? p with
  | none => rfl
  | some c =>
    dsimp only
    rw [Checker.run_snd]
    rfl

namespace CommandLine

/-- Arguments that give a file and a request, with nothing that is misused. -/
structure Asks (room : Room) (f : Files) (args : List Text) (r : Request) (file request : Text) : Prop where
  read : read? args = some r
  version : r.version = false
  positional : ∃ model, r.positional = file :: request :: model ∧ model.length ≤ 1
  askable : isAskable file = true
  config : r.config.map (optionPath? room f true) ≠ some none
  guide : r.guide.map (optionPath? room f false) ≠ some none

def asked (h : Host ω) (host : ω) (fuel : Nat) (f : Files) (r : Request) (file request : Text) :
    Option (Except Failure SessionResult × Files) :=
  session h host fuel f r (r.config.map (optionPath? h.room f true)).join
    (r.guide.map (optionPath? h.room f false)).join (.ofText file) request

def exit (result : Except Failure SessionResult) : Exit :=
  match result with
  | .ok result => .success result.repairRounds
  | .error e => .failure e

theorem any_isNone_iff {α : Type} {x : Option (Option α)} :
    x.any Option.isNone = true ↔ x = some none := by
  rcases x with _ | _ | a <;> simp

/-- A run is the session that its arguments ask for. -/
theorem run_of_asks {host : ω} {fuel : Nat} {f : Files} {args : List Text} {r : Request}
    {file request : Text} (ha : Asks h.room f args r file request) :
    run h host fuel f args =
      (asked h host fuel f r file request).map fun (result, g) => (exit result, g) := by
  obtain ⟨model, hpositional, hmodel⟩ := ha.positional
  have hused : ¬ ((r.config.map (optionPath? h.room f true)).any Option.isNone = true ∨
      (r.guide.map (optionPath? h.room f false)).any Option.isNone = true ∨ 3 < r.positional.length ∨
      (!r.positional.head?.all isAskable) = true) := by
    rintro (hconfig | hguide | hlength | hfile)
    · exact ha.config (any_isNone_iff.1 hconfig)
    · exact ha.guide (any_isNone_iff.1 hguide)
    · rw [hpositional, List.length_cons, List.length_cons] at hlength
      omega
    · simp [hpositional, ha.askable] at hfile
  unfold run asked
  rw [ha.read]
  dsimp only
  rw [ha.version, if_neg Bool.false_ne_true, if_neg hused, hpositional]
  refine congrArg (Option.map · _) (funext fun (result, g) => ?_)
  cases result with
  | ok result => rfl
  | error e => rfl

theorem run_of_not_asks {host : ω} {fuel : Nat} {f : Files} {args : List Text}
    (hno : ∀ r file request, ¬ Asks h.room f args r file request) :
    ∃ x, run h host fuel f args = some (x, f) ∧ (x = .version ∨ x = .misuse ∨ x = .usage) := by
  unfold run
  cases hread : read? args with
  | none => exact ⟨.misuse, rfl, .inr (.inl rfl)⟩
  | some r =>
    dsimp only
    split_ifs with hversion hmisused
    · exact ⟨.version, rfl, .inl rfl⟩
    · exact ⟨.misuse, rfl, .inr (.inl rfl)⟩
    · split
      · rename_i file request model hpositional
        simp only [not_or, any_isNone_iff, hpositional, List.head?_cons, Option.all_some,
          Bool.not_eq_true', Bool.not_eq_false, List.length_cons] at hmisused
        obtain ⟨hconfig, hguide, hlength, hfile⟩ := hmisused
        refine absurd ⟨hread, ?_, ⟨model, hpositional, ?_⟩, hfile, hconfig, hguide⟩ (hno r file request)
        · simpa using hversion
        · omega
      · exact ⟨.usage, rfl, .inr (.inr rfl)⟩

theorem known_inFile (p : Path) {e : Failure}
    (he : (∃ error, e = .config error) ∨ e = .configMissing p ∨ e.OfFiles) : (inFile p e).Known := by
  rcases he with ⟨error, rfl⟩ | rfl | he
  · dsimp only [inFile]
    split_ifs with hplain
    · exact .inl rfl
    · exact .inr (.config (by simpa using hplain))
  · exact .inl rfl
  · cases he with
    | undecodable fault => exact .inl rfl
    | file error path => exact .inl rfl
    | write error => exact .inl rfl
    | nulInPath => exact .inr .nulInPath
    | unencodable fault => exact .inr (.unencodable fault)
    | linkLoop path => exact .inr (.linkLoop path)
    | linkDepth => exact .inr .linkDepth

theorem known_of_optionPath? {room : Room} {f : Files} {isReal : Bool} {given : Option Text}
    {e : Failure} (h : (given.map (optionPath? room f isReal)).join = some (.error e)) : e.Known := by
  obtain ⟨t, -, ht⟩ := Option.map_eq_some_iff.1 (Option.join_eq_some_iff.1 h)
  unfold optionPath? at ht
  dsimp only at ht
  split_ifs at ht
  all_goals
    split at ht
    · split_ifs at ht
      cases ht
    · cases ht
      exact .inr .linkDepth
    · cases ht

theorem loadConfig_fails (room : Room) (f : Files) {asked : Option (Except Failure Path)}
    (hasked : ∀ e, asked = some (.error e) → e.Known) (target : Path) :
    FailsWith Known (loadConfig room f asked target) := by
  have hfile : FailsWith Known (configFile f asked target) := by
    cases asked with
    | some p => exact FailsWith.map some fun e he => hasked e (congrArg some he)
    | none => exact (Config.find_fails f target).mono fun e he => he.known
  refine hfile.bind fun found _ => ?_
  cases found with
  | none => exact .ok _
  | some p =>
    exact .mapError ((Config.load_fails room.yaml f p).mono fun e he => known_inFile p he)

theorem session_fails (hh : h.Ordinary) {host : ω} {fuel : Nat} {f g : Files} {r : Request}
    {asked guide : Option (Except Failure Path)} (hasked : ∀ e, asked = some (.error e) → e.Known)
    (hguide : ∀ e, guide = some (.error e) → e.Known) {target : Path} {request : Text} {e : Failure}
    (hsession : session h host fuel f r asked guide target request = some (.error e, g)) : e.Known := by
  unfold session at hsession
  split at hsession
  · rename_i e' hsetup
    cases hsession
    have hfails : FailsWith Known (do
        let c ← loadConfig h.room f asked target
        let u ← Setup.ofConfig h (Outside.agent h c.agent r.positional[2]?) c (← guide.mapM id) f
        return (c, u)) := by
      refine (loadConfig_fails h.room f hasked target).bind fun c _ => ?_
      refine FailsWith.bind ?_ fun guide' _ => ?_
      · cases guide with
        | none => exact .ok _
        | some p => exact FailsWith.map some fun e he => hguide e (congrArg some he)
      refine FailsWith.bind ?_ fun u _ => .ok _
      exact ((Prompt.system_fails f _).mono fun e he => he.known).bind fun system _ => .ok _
    exact hfails e hsetup
  · rename_i c u hsetup
    obtain ⟨c', -, hu⟩ := bind_eq_ok.1 hsetup
    obtain ⟨guide', -, hu⟩ := bind_eq_ok.1 hu
    obtain ⟨u', hu', heq⟩ := bind_eq_ok.1 hu
    cases heq
    rw [Option.map_eq_some_iff] at hsession
    obtain ⟨⟨result, g', o⟩, hrun, heq⟩ := hsession
    cases heq
    exact Setup.runFrom_fails Setup.covers_known (Setup.failsWithin_of_ofConfig hh hu') hrun

/-- Whether a session under a configuration has fewer rounds than a number: by its limit, or because
fewer replies are written in advance. -/
def endsBefore (n : Nat) (c : Config) : Prop :=
  (∃ m, c.maxRounds = some m ∧ m < n) ∨ (c.agent.kind = .fake ∧ c.agent.script.length < n)

theorem isSome_session {host : ω} {fuel : Nat} {f : Files} {r : Request}
    {asked guide : Option (Except Failure Path)} {target : Path} {request : Text}
    (hends : ∀ c, loadConfig h.room f asked target = .ok c → endsBefore fuel c) :
    (session h host fuel f r asked guide target request).isSome := by
  unfold session
  split
  · rfl
  · rename_i c u hsetup
    obtain ⟨c', hc, hu⟩ := bind_eq_ok.1 hsetup
    obtain ⟨guide', -, hu⟩ := bind_eq_ok.1 hu
    obtain ⟨u', hu', heq⟩ := bind_eq_ok.1 hu
    cases heq
    rw [Option.isSome_map]
    refine Setup.isSome_runFrom ?_
    rcases hends c hc with hlimit | ⟨hkind, hscript⟩
    · exact .inl hlimit
    · obtain ⟨system, -, hsystem⟩ := bind_eq_ok.1 hu'
      cases hsystem
      refine .inr ⟨?_, ?_, hscript⟩
      · dsimp only [Outside.agent]
        rw [hkind]
      · exact CheckerTable.replies_check

theorem isSome_run {host : ω} {fuel : Nat} {f : Files} {args : List Text}
    (hends : ∀ asked target c, loadConfig h.room f asked target = .ok c → endsBefore fuel c) :
    (run h host fuel f args).isSome := by
  by_cases ha : ∃ r file request, Asks h.room f args r file request
  · obtain ⟨r, file, request, ha⟩ := ha
    rw [run_of_asks ha, Option.isSome_map]
    exact isSome_session (hends _ _)
  · have hstops : ∃ x, run h host fuel f args = some (x, f) ∧ _ :=
      run_of_not_asks fun r file request hasks => ha ⟨r, file, request, hasks⟩
    obtain ⟨x, hrun, -⟩ := hstops
    rw [hrun]
    rfl

namespace Exit

/-- An exit with the report of a failure: the code of an error, and the wording of the failure among
the errors. -/
def Reports (x : Exit) (e : Failure) : Prop :=
  x = .failure e ∧ x.code = 1 ∧ x.escaped? = none ∧ ∀ wording, x.stderr wording =
    encodable (plain (line (Text.ofString "Error: " ++ (e.message? wording).getD [])))

/-- An exit by a failure that nobody reports. -/
def Breaks (x : Exit) (e : Failure) : Prop :=
  x = .failure e ∧ x.escaped? = some e ∧ ∀ wording, x.stderr wording = []

theorem reports_iff {e : Failure} (he : e.Known) : (failure e).Reports e ↔ ¬ e.Escapes := by
  rw [← he.isReported_iff]
  constructor
  · rintro ⟨-, -, hescaped, -⟩
    by_contra hreported
    rw [escaped?, if_neg hreported] at hescaped
    cases hescaped
  · intro hreported
    exact ⟨rfl, rfl, if_pos hreported, fun wording => if_pos hreported⟩

theorem breaks_iff {e : Failure} (he : e.Known) : (failure e).Breaks e ↔ e.Escapes := by
  constructor
  · rintro ⟨-, hescaped, -⟩
    refine he.resolve_left fun hreported => ?_
    rw [escaped?, if_pos hreported] at hescaped
    cases hescaped
  · intro hescapes
    have hreported : ¬ e.isReported = true := by rw [hescapes.isReported]; exact Bool.false_ne_true
    exact ⟨rfl, if_neg hreported, fun wording => if_neg hreported⟩

end Exit

/-- Whatever the files, the configuration among them, the arguments, the agent's replies and the
commands are, a run that is given a file and a request succeeds when its session has given a result,
or it fails as its session does, and it reports the failure exactly if that is none of those that
escape. A run comes to its end if its configuration bounds the rounds. A reply that means nothing
escapes exactly if its payload goes beyond a limit. -/
theorem run_reports_unless_escapes (h : Host ω) (hh : h.Ordinary) (host : ω) (fuel : Nat) (f : Files)
    (args : List Text) :
    (∀ r file request x g, Asks h.room f args r file request → run h host fuel f args = some (x, g) →
      ∃ result, asked h host fuel f r file request = some (result, g) ∧
        ((∃ y, result = .ok y ∧ x = .success y.repairRounds ∧ x.code = 0) ∨
          ∃ e, result = .error e ∧ (x.Reports e ↔ ¬ e.Escapes) ∧ (x.Breaks e ↔ e.Escapes))) ∧
    ((∀ r file request, ¬ Asks h.room f args r file request) →
      ∃ x, run h host fuel f args = some (x, f) ∧ (x = .version ∨ x = .misuse ∨ x = .usage)) ∧
    ((∀ asked target c, loadConfig h.room f asked target = .ok c → endsBefore fuel c) →
      (run h host fuel f args).isSome) ∧
    ∀ room reply, (∃ e, Turn.ofReply room reply = .error e ∧ (Failure.reply e).Escapes) ↔
      ∃ before rest payload after failure, Text.FirstAt Turn.showOpen reply before rest ∧
        Text.FirstAt Turn.showClose rest payload after ∧
        Json.decode room (Text.trim payload) = .error failure ∧ failure.Limit := by
  refine ⟨fun r file request x g ha hrun => ?_, run_of_not_asks, isSome_run, fun room reply => ?_⟩
  · rw [run_of_asks ha, Option.map_eq_some_iff] at hrun
    obtain ⟨⟨result, g'⟩, hsession, heq⟩ := hrun
    cases heq
    refine ⟨result, hsession, ?_⟩
    cases result with
    | ok y => exact .inl ⟨y, rfl, rfl, rfl⟩
    | error e =>
      have he : e.Known := session_fails hh (fun _ => known_of_optionPath?)
        (fun _ => known_of_optionPath?) hsession
      exact .inr ⟨e, rfl, Exit.reports_iff he, Exit.breaks_iff he⟩
  · rw [← Turn.ofReply_limit_iff]
    constructor
    · rintro ⟨e, hreply, hescapes⟩
      cases hescapes with
      | @payload payload failure hlimit => exact ⟨payload, failure, hreply, hlimit⟩
    · rintro ⟨payload, failure, hreply, hlimit⟩
      exact ⟨.notJson payload failure, hreply, .payload hlimit⟩

def configured (config : Text) : Files :=
  ⟨⟨[(["f.x"], .file (Utf8.encodeWith [] "old") 0o644),
    (["sirecoder.yaml"], .file (Utf8.encodeWith [] config) 0o644)]⟩, []⟩

def asking : List Text := ["f.x", "request"]

theorem asks_asking (room : Room) (config : Text) :
    Asks room (configured config) asking { positional := asking } "f.x" "request" where
  read := rfl
  version := rfl
  positional := ⟨[], rfl, Nat.zero_le 1⟩
  askable := by decide +kernel
  config := by simp
  guide := by simp

/-- A limit on the rounds that is no number is reported. -/
theorem run_reports_unless_escapes_often :
    (Host.system ⟨9, 9, 9⟩).Ordinary ∧
    Asks ⟨9, 9, 9⟩ (configured "max_rounds: often") asking { positional := asking } "f.x" "request" ∧
    ∃ e g, run (Host.system ⟨9, 9, 9⟩) () 1 (configured "max_rounds: often") asking = some (.failure e, g) ∧
      (Exit.failure e).Reports e := by
  have hreported : (run (Host.system ⟨9, 9, 9⟩) () 1 (configured "max_rounds: often") asking).any (fun y =>
      y.1.code = 1 && y.1.escaped?.isNone) = true := by
    decide +kernel
  obtain ⟨⟨x, g⟩, hrun, hx⟩ := (Option.any_eq_true _ _).1 hreported
  have hasks := asks_asking ⟨9, 9, 9⟩ "max_rounds: often"
  obtain ⟨hends, -, -, -⟩ := run_reports_unless_escapes (Host.system ⟨9, 9, 9⟩) Host.ordinary_system () 1
    (configured "max_rounds: often") asking
  refine ⟨Host.ordinary_system, hasks, ?_⟩
  obtain ⟨result, hasked, hresult⟩ := hends _ _ _ x g hasks hrun
  have hexit : x = exit result := by
    rw [run_of_asks hasks, hasked] at hrun
    exact (congrArg Prod.fst (Option.some.inj hrun)).symm
  rcases hresult with ⟨y, rfl, rfl, -⟩ | ⟨e, rfl, hreports, -⟩
  · cases hx
  · subst hexit
    refine ⟨e, g, hrun, hreports.2 fun hescapes => ?_⟩
    have hescaped : (exit (.error e)).escaped? = some e :=
      if_neg (Bool.not_eq_true _ ▸ hescapes.isReported)
    rw [hescaped] at hx
    cases hx

def Exit.configError? (x : Exit) : Option ConfigError :=
  match x.escaped? with
  | some (.config e) => some e
  | _ => none

theorem Exit.eq_of_configError? {x : Exit} {e : ConfigError} (h : x.configError? = some e) :
    x = .failure (.config e) := by
  unfold configError? at h
  split at h
  · next hescaped =>
    cases h
    cases x with
    | failure f =>
      rw [escaped?] at hescaped
      split_ifs at hescaped
      cases hescaped
      rfl
    | _ => cases hescaped
  · cases h

/-- A limit on the rounds that is a number without text ends the program, as does a reply that asks
for a number with more digits than are read. -/
theorem run_escapes_emptyNumber :
    Asks ⟨9, 9, 9⟩ (configured "max_rounds: !!int ''") asking { positional := asking } "f.x" "request" ∧
    (∃ x g, run (Host.system ⟨9, 9, 9⟩) () 1 (configured "max_rounds: !!int ''") asking = some (x, g) ∧
      x.Breaks (.config .emptyNumber)) ∧
    ∃ e, Turn.ofReply 9 (Turn.showOpen ++ (Json.nines (4300 + 1) ++ Turn.showClose)) = .error e ∧
      (Exit.failure (.reply e)).Breaks (.reply e) := by
  refine ⟨asks_asking _ _, ?_, ?_⟩
  · have hescaped : (run (Host.system ⟨9, 9, 9⟩) () 1 (configured "max_rounds: !!int ''") asking).any
        (fun y => y.1.configError? = some .emptyNumber) = true := by
      decide +kernel
    obtain ⟨⟨x, g⟩, hrun, hx⟩ := (Option.any_eq_true _ _).1 hescaped
    obtain rfl := Exit.eq_of_configError? (of_decide_eq_true hx)
    exact ⟨_, g, hrun, rfl, rfl, fun _ => rfl⟩
  · exact ⟨_, Turn.ofReply_nines (Nat.lt_succ_self 4300), rfl, rfl, fun _ => rfl⟩

end CommandLine

end Redraft
