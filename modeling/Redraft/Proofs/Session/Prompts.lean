import Mathlib.Data.List.Chain
import Mathlib.Data.List.ModifyLast
import Redraft.Proofs.Files.Read
import Redraft.Proofs.Files.Write
import Redraft.Proofs.Session.Observed

/-!
Prompts follow from the round before. Each call is given the same system prompt, and a prompt that
is made of the reply to the call before it, of the files as they are now, and of the check of what
is there; nothing older goes into it.
-/
namespace Redraft

namespace Files

variable {f g : Files} {p : Path} {l : Location} {content text : Text} {bytes : Bytes}

/-- The text that the bytes at the entry of a path decode to, in the files that a write to it has
made of others. The path leads there, unless the way to it ran through the link that was replaced. -/
def OnDisk (f : Files) (p : Path) (g : Files) (text : Text) : Prop :=
  ∃ l bytes mode, f.entry p = .ok l ∧ g.tree.node? l = some (.file bytes mode) ∧
    Utf8.decode bytes = .ok text ∧ (f.RunsThrough p l ∨ g.readBytes p = .ok bytes)

theorem Wrote.onDisk (hp : p.Plain) (h : f.Wrote p content l bytes g.tree) (hcwd : g.cwd = f.cwd) :
    f.OnDisk p g content := by
  refine ⟨l, bytes, _, h.entry, h.node, Utf8.decode_encode h.encoded, ?_⟩
  by_cases hway : f.RunsThrough p l
  · exact .inl hway
  · exact .inr (readBytes_eq_ok.2 ⟨h.nameable, _, h.stat hp hcwd hway⟩)

/-- What is on disk after a write is the text that was written. -/
theorem onDisk_written (hw : f.writeAtomic p content = (.ok (), g.tree)) (h : f.OnDisk p g text) :
    text = content := by
  obtain ⟨l, bytes, mode, hentry, hnode, hdecode, -⟩ := h
  obtain ⟨m, bytes', hwrote⟩ := exists_wrote hw
  obtain rfl : l = m := Except.ok.inj (hentry.symm.trans hwrote.entry)
  have hfile := hnode.symm.trans hwrote.node
  obtain ⟨rfl, -⟩ := Node.file.inj (Option.some.inj hfile)
  exact Except.ok.inj (hdecode.symm.trans (Utf8.decode_encode hwrote.encoded))

end Files

/-- A call of the agent: the files as they were, what it was given and what it replied, and the
check that this led to, with the files and the path that were checked. -/
structure Call where
  files : Files
  system : Text
  prompt : Text
  reply : Except Failure Text
  check : Option (Files × Path × Except Failure Outcome)

variable {σ : Type}

namespace RunState

def withCalls (calls : List Call) (s : RunState σ) : RunState (σ × List Call) :=
  ⟨s.session, s.files, (s.outside, calls), s.log⟩

end RunState

namespace Setup

variable {u : Setup σ} {content : Text} {r : Round}

def recorded (u : Setup σ) : Setup (σ × List Call) where
  agent := ⟨u.agent.name, fun f system prompt o =>
    let (reply, a) := u.agent.ask f system prompt o.1
    (reply, a, o.2 ++ [⟨f, system, prompt, reply, none⟩])⟩
  system := u.system
  language := u.language
  room := u.room
  check f p o :=
    let (outcome, a) := u.check f p o.1
    (outcome, a, o.2.modifyLast fun call => { call with check := some (f, p, outcome) })
  refuses f p content o := u.refuses f p content o.1

/-- What the call after a call is given: served requests, or the repair of what was written. -/
def Follows (u : Setup σ) (target : Path) (c d : Call) : Prop :=
  ∃ reply, c.reply = .ok reply ∧ match Turn.ofReply u.room.json reply with
    | .error _ => False
    | .ok (.info requests) => d.files = c.files ∧
      Source.serve u.room.links d.files u.language target.parent requests = .ok d.prompt
    | .ok (.edit content) => ∃ outcome diagnostics text,
      c.files.writeAtomic target (Text.trim content) = (.ok (), d.files.tree) ∧
      d.files.cwd = c.files.cwd ∧ c.files.OnDisk target d.files text ∧
      c.check = some (d.files, target, .ok outcome) ∧ outcome.diagnostics? = some diagnostics ∧
      d.prompt = Prompt.repair target.toText text diagnostics

/-- Calls that have the same system prompt, and prompts each of which follows from the call before
it, from a first prompt on. -/
structure Chained (u : Setup σ) (target : Path) (first : Text) (calls : List Call) : Prop where
  system : ∀ c ∈ calls, c.system = u.system
  first : ∀ c ∈ calls.head?, c.prompt = first
  follows : calls.IsChain (Follows u target)

def recorder : Observer (List Call) where
  asked f system prompt reply calls := calls ++ [⟨f, system, prompt, reply, none⟩]
  checked f p outcome calls :=
    calls.modifyLast fun call => { call with check := some (f, p, outcome) }

theorem round_withCalls (u : Setup σ) (s : RunState σ) (calls : List Call) :
    ∃ calls', (recorded u).round (s.withCalls calls) =
      ((u.round s).1, (u.round s).2.withCalls calls') := by
  have hrecorded : recorded u = u.observed recorder := rfl
  obtain ⟨added, -, hround⟩ := round_joined (u := u) (s := s) recorder calls rfl
  rw [hrecorded]
  exact ⟨_, hround⟩

def call (u : Setup σ) (s : RunState σ) : Call :=
  ⟨s.files, u.system, s.session.pending, (u.ask s).1, none⟩

theorem ask_calls (u : Setup σ) (s : RunState (σ × List Call)) :
    ((recorded u).ask s).2.outside.2 = s.outside.2 ++ [u.call s.forget] := rfl

theorem check_calls {s : RunState (σ × List Call)} {calls : List Call} {c : Call}
    (hcalls : s.outside.2 = calls ++ [c]) :
    (checkTarget (recorded u) (write (recorded u) content s).2).2.outside.2 =
      calls ++ [{ c with check := some ((write (recorded u) content s).2.files, s.session.target,
        (checkTarget (recorded u) (write (recorded u) content s).2).1) }] := by
  have hcheck : (checkTarget (recorded u) (write (recorded u) content s).2).2.outside.2 =
      (write (recorded u) content s).2.outside.2.modifyLast fun call =>
        { call with check := some ((write (recorded u) content s).2.files,
          (write (recorded u) content s).2.session.target,
          (checkTarget (recorded u) (write (recorded u) content s).2).1) } := by
    rw [checkTarget_outside, checkTarget_fst]
    rfl
  rw [hcheck, write_outside, hcalls, List.modifyLast_concat, write_session]

theorem follows_of_refused {s : RunState (σ × List Call)} {c d : Call} {reply diagnostics : Text}
    {o : Outcome} (hp : s.session.target.Plain) (hreply : c.reply = .ok reply)
    (hturn : Turn.ofReply u.room.json reply = .ok (.edit content)) (hfiles : c.files = s.files)
    (hwrite : (write (recorded u) (Text.trim content) s).1 = .ok ())
    (hcheck : c.check = some ((write (recorded u) (Text.trim content) s).2.files, s.session.target, .ok o))
    (hdiagnostics : o.diagnostics? = some diagnostics)
    (hd : d.files = (write (recorded u) (Text.trim content) s).2.files)
    (hprompt : d.prompt = Prompt.repair s.session.target.toText (Text.trim content) diagnostics) :
    Follows u s.session.target c d := by
  refine ⟨reply, hreply, ?_⟩
  rw [hturn]
  rw [← hd] at hcheck
  rw [write_fst] at hwrite
  rw [write_files] at hd
  have hput : s.files.writeAtomicUnless (u.refuses s.files s.session.target (Text.trim content)
      s.outside.1) s.session.target (Text.trim content) = (.ok (), d.files.tree) := by
    rw [hd]
    exact Prod.ext hwrite rfl
  have hcwd : d.files.cwd = s.files.cwd := by rw [hd]
  obtain ⟨l, bytes, hw⟩ := Files.exists_wrote hput
  rw [hfiles]
  exact ⟨o, diagnostics, Text.trim content, Files.writeAtomic_of_writeAtomicUnless hput, hcwd,
    hw.onDisk hp hcwd, hcheck, hdiagnostics, hprompt⟩

/-- The call of a round that writes is kept with its check, and the next call follows from it. -/
theorem Edits.calls {s s' : RunState (σ × List Call)} {c : Call} {reply : Text} {calls : List Call}
    (hp : s.session.target.Plain) (hcalls : s.outside.2 = calls ++ [c])
    (hreply : c.reply = .ok reply) (hturn : Turn.ofReply u.room.json reply = .ok (.edit content))
    (hfiles : c.files = s.files) (h : Edits (recorded u) content s r s') :
    ∃ check, s'.outside.2 = calls ++ [{ c with check := check }] ∧
      (r = .again → ∀ d : Call, d.files = s'.files → d.prompt = s'.session.pending →
        Follows u s.session.target { c with check := check } d) := by
  cases h with
  | unwritten hwrite => exact ⟨c.check, by rw [write_outside, hcalls], by simp⟩
  | unchecked hwrite hcheck => exact ⟨c.check, by rw [write_outside, hcalls], by simp⟩
  | uncheckable hwrite hcheck houtcome => exact ⟨_, check_calls hcalls, by simp⟩
  | accepted hwrite hcheck houtcome hclean => exact ⟨_, check_calls hcalls, by simp⟩
  | refused hwrite hcheck houtcome hdiagnostics =>
    refine ⟨_, check_calls hcalls, ?_⟩
    intro _ d hd hprompt
    rw [houtcome]
    simp only [repair, checkTarget_files, checkTarget_session, write_session] at hd hprompt
    exact follows_of_refused hp hreply hturn hfiles hwrite rfl hdiagnostics hd hprompt

/-- What a round adds to the record: nothing when the agent is not asked, and else one call, from
which the next one follows. -/
theorem Goes.calls {s s' : RunState (σ × List Call)} (hp : s.session.target.Plain)
    (h : Goes (recorded u) s r s') :
    s'.outside.2 = s.outside.2 ∧ r ≠ .again ∨
    ∃ c, s'.outside.2 = s.outside.2 ++ [c] ∧ c.files = s.files ∧ c.system = u.system ∧
      c.prompt = s.session.pending ∧ (r = .again → ∀ d : Call, d.files = s'.files →
        d.prompt = s'.session.pending → Follows u s.session.target c d) := by
  cases h with
  | spent hspent => exact .inl ⟨rfl, by simp⟩
  | unanswered hspent hask => exact .inr ⟨_, rfl, rfl, rfl, rfl, by simp⟩
  | unread hspent hask hturn => exact .inr ⟨_, rfl, rfl, rfl, rfl, by simp⟩
  | unserved hspent hask hturn hserve => exact .inr ⟨_, rfl, rfl, rfl, rfl, by simp⟩
  | @served reply answer requests hspent hask hturn hserve =>
    refine .inr ⟨_, rfl, rfl, rfl, rfl, ?_⟩
    intro _ d hfiles hprompt
    refine ⟨reply, hask, ?_⟩
    have hread : Turn.ofReply u.room.json reply = .ok (.info requests) := hturn
    rw [hread]
    refine ⟨hfiles, ?_⟩
    rw [hfiles, hprompt]
    exact hserve
  | @edited reply content r s' hspent hask hturn hedit =>
    obtain ⟨check, hcalls, hfollows⟩ :=
      Edits.calls (s := ((recorded u).ask s).2) hp (ask_calls u s) hask hturn rfl hedit
    exact .inr ⟨_, hcalls, rfl, rfl, rfl, hfollows⟩

/-- A chain of calls, and what the one after them is given. -/
structure Leads (u : Setup σ) (s₀ s : RunState σ) (calls : List Call) : Prop where
  target : s.session.target = s₀.session.target
  chained : Chained u s₀.session.target s₀.session.pending calls
  first : calls = [] → s.session.pending = s₀.session.pending
  next : ∀ c ∈ calls.getLast?, ∀ d : Call, d.files = s.files → d.prompt = s.session.pending →
    Follows u s₀.session.target c d

theorem Chained.snoc {target : Path} {first : Text} {calls : List Call} {d : Call}
    (h : Chained u target first calls) (hsystem : d.system = u.system)
    (hfirst : calls = [] → d.prompt = first)
    (hnext : ∀ c ∈ calls.getLast?, Follows u target c d) : Chained u target first (calls ++ [d]) where
  system := by
    intro c hc
    rcases List.mem_append.1 hc with hc | hc
    · exact h.system c hc
    · rw [List.mem_singleton.1 hc, hsystem]
  first := by
    intro c hc
    cases calls with
    | nil =>
      obtain rfl : d = c := by simpa using hc
      exact hfirst rfl
    | cons b calls => exact h.first c (by simpa using hc)
  follows := by
    rw [List.isChain_append]
    refine ⟨h.follows, List.isChain_singleton d, ?_⟩
    intro c hc d' hd
    obtain rfl : d = d' := by simpa using hd
    exact hnext c hc

theorem Leads.round {s₀ s s' : RunState σ} {calls : List Call} (hp : s₀.session.target.Plain)
    (h : Leads u s₀ s calls) (hround : u.round s = (r, s')) :
    ∃ calls', (recorded u).round (s.withCalls calls) = (r, s'.withCalls calls') ∧
      Chained u s₀.session.target s₀.session.pending calls' ∧ (r = .again → Leads u s₀ s' calls') := by
  obtain ⟨calls', hrecorded⟩ := round_withCalls u s calls
  rw [hround] at hrecorded
  refine ⟨calls', hrecorded, ?_⟩
  have hgoes := goes_iff.2 hrecorded
  have htarget := (goes_iff.2 hround).target.trans h.target
  rcases hgoes.calls (show s.session.target.Plain from h.target ▸ hp) with
    ⟨hsame, hr⟩ | ⟨d, hcalls, hfiles, hsystem, hprompt, hfollows⟩
  · obtain rfl : calls' = calls := hsame
    exact ⟨h.chained, fun hagain => absurd hagain hr⟩
  · obtain rfl : calls' = calls ++ [d] := hcalls
    have hchained : Chained u s₀.session.target s₀.session.pending (calls ++ [d]) := by
      refine h.chained.snoc hsystem ?_ ?_
      · intro hnil
        rw [hprompt]
        exact h.first hnil
      · intro c hc
        exact h.next c hc d hfiles hprompt
    refine ⟨hchained, ?_⟩
    rintro rfl
    refine ⟨htarget, hchained, by simp, ?_⟩
    intro c hc e hfiles' hprompt'
    obtain rfl : d = c := by simpa using hc
    rw [← h.target]
    exact hfollows rfl e hfiles' hprompt'

theorem leads_start (u : Setup σ) (s₀ : RunState σ) : Leads u s₀ s₀ [] where
  target := rfl
  chained := ⟨by simp, by simp, List.isChain_nil⟩
  first := fun _ => rfl
  next := by simp

theorem Reaches.leads {s₀ s : RunState σ} {w : Option Text} (hp : s₀.session.target.Plain)
    (h : Reaches u s₀ w s) : ∃ calls, Reaches (recorded u) (s₀.withCalls []) w (s.withCalls calls) ∧
      Leads u s₀ s calls := by
  induction h with
  | start => exact ⟨[], .start, leads_start u s₀⟩
  | again h hround ih =>
    obtain ⟨calls, hreaches, hleads⟩ := ih
    obtain ⟨calls', hrecorded, -, hagain⟩ := hleads.round hp hround
    exact ⟨calls', hreaches.again hrecorded, hagain rfl⟩

theorem Leads.run {s₀ s s' : RunState σ} {calls : List Call} {x : Except Failure SessionResult}
    (hp : s₀.session.target.Plain) (n : Nat) (h : Leads u s₀ s calls) (hrun : u.run n s = some (x, s')) :
    ∃ calls', (recorded u).run n (s.withCalls calls) = some (x, s'.withCalls calls') ∧
      Chained u s₀.session.target s₀.session.pending calls' := by
  induction n generalizing s calls with
  | zero => cases hrun
  | succ n ih =>
    rw [Setup.run] at hrun ⊢
    cases hround : u.round s with
    | mk r s₁ =>
      rw [hround] at hrun
      obtain ⟨calls', hrecorded, hchained, hagain⟩ := h.round hp hround
      rw [hrecorded]
      cases r with
      | again => exact ih (hagain rfl) hrun
      | finished result =>
        obtain ⟨rfl, rfl⟩ := Prod.mk.inj (Option.some.inj hrun)
        exact ⟨calls', rfl, hchained⟩
      | failed e =>
        obtain ⟨rfl, rfl⟩ := Prod.mk.inj (Option.some.inj hrun)
        exact ⟨calls', rfl, hchained⟩

/-- A prompt that follows from a call is made of its reply, of the files that the prompt comes with
and of what the check said, and of nothing else. -/
theorem Follows.prompt_eq {τ : Type} {v : Setup τ} {target : Path} {c d c' d' : Call}
    (h : Follows u target c d) (h' : Follows v target c' d') (hlanguage : v.language = u.language)
    (hroom : v.room = u.room) (hreply : c'.reply = c.reply) (hfiles : d'.files = d.files)
    (hcheck : c'.check.map (·.2.2) = c.check.map (·.2.2)) : d'.prompt = d.prompt := by
  obtain ⟨reply, hr, h⟩ := h
  obtain ⟨reply', hr', h'⟩ := h'
  rw [hroom] at h'
  obtain rfl : reply' = reply := Except.ok.inj (hr'.symm.trans (hreply.trans hr))
  cases hturn : Turn.ofReply u.room.json reply' with
  | error e => rw [hturn] at h; cases h
  | ok turn =>
    rw [hturn] at h h'
    cases turn with
    | info requests =>
      obtain ⟨-, hserve⟩ := h
      obtain ⟨-, hserve'⟩ := h'
      rw [hlanguage, hfiles, hserve] at hserve'
      exact (Except.ok.inj hserve').symm
    | edit content =>
      obtain ⟨o, diagnostics, text, hwrite, -, hdisk, hchecked, hsaid, hprompt⟩ := h
      obtain ⟨o', diagnostics', text', hwrite', -, hdisk', hchecked', hsaid', hprompt'⟩ := h'
      rw [hchecked, hchecked'] at hcheck
      obtain rfl : o' = o := Except.ok.inj (Option.some.inj hcheck)
      obtain rfl : diagnostics' = diagnostics := Option.some.inj (hsaid'.symm.trans hsaid)
      rw [hprompt, hprompt', Files.onDisk_written hwrite hdisk, Files.onDisk_written hwrite' hdisk']

/-- However far a run has come and however it ends, the calls of its agent are chained; and two
prompts are the same, be it in two runs of two agents, when the replies to the calls before them, the
files that they come with and what the checks said are the same. -/
theorem calls_chained (u : Setup σ) (s₀ : RunState σ) (hp : s₀.session.target.Plain) :
    (∀ w s, Reaches u s₀ w s → ∃ calls,
      Reaches (recorded u) (s₀.withCalls []) w (s.withCalls calls) ∧
        Chained u s₀.session.target s₀.session.pending calls) ∧
    (∀ n x s, u.run n s₀ = some (x, s) → ∃ calls,
      (recorded u).run n (s₀.withCalls []) = some (x, s.withCalls calls) ∧
        Chained u s₀.session.target s₀.session.pending calls) ∧
    ∀ (v : Setup σ) (c d c' d' : Call), Follows u s₀.session.target c d →
      Follows v s₀.session.target c' d' → v.language = u.language → v.room = u.room →
      c'.reply = c.reply → d'.files = d.files → c'.check.map (·.2.2) = c.check.map (·.2.2) →
      d'.prompt = d.prompt := by
  refine ⟨?_, ?_, ?_⟩
  · intro w s h
    obtain ⟨calls, hreaches, hleads⟩ := h.leads hp
    exact ⟨calls, hreaches, hleads.chained⟩
  · intro n x s hrun
    exact (leads_start u s₀).run hp n hrun
  · intro v c d c' d' h h' hlanguage hroom hreply hfiles hcheck
    exact h.prompt_eq h' hlanguage hroom hreply hfiles hcheck

/-- Two results are refused, and the agent has no third one: three calls. -/
theorem calls_chained_refused :
    (RunState.oneFile true ["<RESULT> b </RESULT>", "<RESULT>c</RESULT>"]).session.target.Plain ∧
    ∃ x s calls, refusing.run 3 (.oneFile true ["<RESULT> b </RESULT>", "<RESULT>c</RESULT>"]) =
        some (x, s) ∧ Chained refusing (.ofText "a") "go" calls ∧
      calls.map Call.prompt =
        [Text.ofString "go", Prompt.repair "a" "b" "refused", Prompt.repair "a" "c" "refused"] := by
  have hp : (RunState.oneFile true ["<RESULT> b </RESULT>", "<RESULT>c</RESULT>"]).session.target.Plain :=
    Path.plain_ofText "a"
  have hprompts : ((recorded refusing).run 3 (RunState.withCalls []
      (.oneFile true ["<RESULT> b </RESULT>", "<RESULT>c</RESULT>"]))).map
        (fun y => y.2.outside.2.map Call.prompt) =
      some [Text.ofString "go", Prompt.repair "a" "b" "refused", Prompt.repair "a" "c" "refused"] := by
    decide +kernel
  have hsome : (refusing.run 3 (.oneFile true ["<RESULT> b </RESULT>", "<RESULT>c</RESULT>"])).isSome := by
    decide +kernel
  obtain ⟨⟨x, s⟩, hrun⟩ := Option.isSome_iff_exists.1 hsome
  obtain ⟨calls, hrecorded, hchained⟩ := (calls_chained refusing _ hp).2.1 3 x s hrun
  rw [hrecorded] at hprompts
  exact ⟨hp, x, s, calls, hrun, hchained, Option.some.inj hprompts⟩

end Setup

end Redraft
