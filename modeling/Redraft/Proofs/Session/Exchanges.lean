import Redraft.Proofs.Source.Excerpt
import Redraft.Proofs.Session.Observed

/-!
The log of a run, round by round. A round in which the agent is asked puts down one exchange: the call,
then the write and the check that it led to. The counters of the session are counts of exchanges, and
every exchange but the last was handled, which means that the run went on after it.
-/
namespace Redraft

variable {σ : Type}

/-- A round in which the agent was asked: the session, the files and the state outside as they were
then, the reply, the content that was written and what its check said, each with the files as they
were then. -/
structure Exchange (σ : Type) where
  session : Session
  files : Files
  outside : σ
  reply : Except Failure Text
  wrote : Option (Text × Files) := none
  checked : Option (Except Failure Outcome × Files) := none

namespace Exchange

def events (x : Exchange σ) : List Event :=
  .asked x.session x.files x.reply ::
    ((x.wrote.map fun (content, f) => .wrote content f).toList ++
      (x.checked.map fun (outcome, f) => .checked outcome f).toList)

def asked (u : Setup σ) (x : Exchange σ) : Except Failure Text × σ :=
  u.agent.ask x.files u.system x.session.pending x.outside

def filesLeft (x : Exchange σ) : Files := (x.wrote.map Prod.snd).getD x.files

def left (u : Setup σ) (x : Exchange σ) : σ :=
  match x.checked with
  | some (_, g) => (u.check g x.session.target (x.asked u).2).2
  | none => (x.asked u).2

def turn? (u : Setup σ) (x : Exchange σ) : Option Turn :=
  x.reply.toOption.bind fun reply => (Turn.ofReply u.room.json reply).toOption

def isInfo (u : Setup σ) (x : Exchange σ) : Bool :=
  match x.turn? u with
  | some (.info _) => true
  | _ => false

def isRefused (u : Setup σ) (x : Exchange σ) : Bool :=
  match x.turn? u, x.checked with
  | some (.edit _), some (.ok o, _) => o.hasDiagnostics
  | _, _ => false

/-- The reply is the agent's. A result is written without the blanks around it, if that succeeds, and
nothing else is written. With checking on what was written is checked once, on the files as the write
left them, and nothing else is checked. -/
structure Lawful (u : Setup σ) (x : Exchange σ) : Prop where
  reply : x.reply = (x.asked u).1
  wrote : ∀ content g, x.wrote = some (content, g) ↔ ∃ text, x.turn? u = some (.edit text) ∧
    content = Text.trim text ∧
    u.put x.session.target x.files content (x.asked u).2 = (.ok (), g.tree) ∧ g.cwd = x.files.cwd
  checked : x.checked.map Prod.snd = if x.session.check then x.wrote.map Prod.snd else none
  said : ∀ outcome g, x.checked = some (outcome, g) →
    outcome = (u.check g x.session.target (x.asked u).2).1

/-- The round neither failed nor ended the run: requests were served, or a result was written and
refused. -/
inductive Handled (u : Setup σ) (x : Exchange σ) : Prop
  | served {requests : List Request} {answer : Text} (hturn : x.turn? u = some (.info requests))
      (hserve : Source.serve u.room.links x.files u.language x.session.target.parent requests =
        .ok answer)
  | refused {content text : Text} {o : Outcome} {g : Files} (hturn : x.turn? u = some (.edit text))
      (hwrote : x.wrote = some (content, g)) (hchecked : x.checked = some (.ok o, g))
      (hdiagnostics : o.hasDiagnostics = true)

/-- The agent or the checker failed with a failure of its own. -/
def Raised (x : Exchange σ) (e : Failure) : Prop :=
  x.reply = .error e ∨ ∃ g, x.checked = some (.error e, g)

/-- What the round of an exchange leads to. -/
inductive Leads (u : Setup σ) (x : Exchange σ) : Round → Prop
  | again (handled : x.Handled u) : Leads u x .again
  | finished {content : Text} {g : Files} {outcome : Option Outcome}
      (hwrote : x.wrote = some (content, g))
      (hchecked : x.checked = outcome.map fun o => (.ok o, g))
      (hclean : ∀ o ∈ outcome, o.hasDiagnostics = false) :
      Leads u x (.finished (x.session.result content outcome))
  | failed {e : Failure} (hnot : ¬ x.Handled u)
      (hlimit : ∀ limit rounds, e = .roundLimit limit rounds → x.Raised e) : Leads u x (.failed e)

variable {u : Setup σ} {x : Exchange σ}

theorem not_handled_of_turn? (h : x.turn? u = none) : ¬ x.Handled u := by
  rintro (⟨hturn, -⟩ | ⟨hturn, -, -, -⟩)
  · rw [h] at hturn
    cases hturn
  · rw [h] at hturn
    cases hturn

theorem isInfo_of_info {requests : List Request} (h : x.turn? u = some (.info requests)) :
    x.isInfo u = true := by
  rw [isInfo, h]

theorem isInfo_of_edit {text : Text} (h : x.turn? u = some (.edit text)) : x.isInfo u = false := by
  rw [isInfo, h]

theorem isInfo_of_none (h : x.turn? u = none) : x.isInfo u = false := by
  rw [isInfo, h]

theorem isRefused_of_info {requests : List Request} (h : x.turn? u = some (.info requests)) :
    x.isRefused u = false := by
  rw [isRefused, h]

theorem isRefused_of_ok {text : Text} {o : Outcome} {g : Files} (h : x.turn? u = some (.edit text))
    (hchecked : x.checked = some (.ok o, g)) : x.isRefused u = o.hasDiagnostics := by
  simp only [isRefused, h, hchecked]

theorem isRefused_of_error {e : Failure} {g : Files} (hchecked : x.checked = some (.error e, g)) :
    x.isRefused u = false := by
  rw [isRefused, hchecked]
  split
  · rename_i h
    cases h
  · rfl

theorem isRefused_of_unchecked (hchecked : x.checked = none) : x.isRefused u = false := by
  rw [isRefused, hchecked]
  split
  · rename_i h
    cases h
  · rfl

theorem isInfo_add_isRefused_le (u : Setup σ) (x : Exchange σ) :
    (x.isInfo u).toNat + (x.isRefused u).toNat ≤ 1 := by
  cases h : x.turn? u with
  | none => simp [isInfo_of_none h, Bool.toNat_le]
  | some turn =>
    cases turn with
    | info requests => simp [isRefused_of_info h, Bool.toNat_le]
    | edit text => simp [isInfo_of_edit h, Bool.toNat_le]

theorem Handled.isInfo_add_isRefused (h : x.Handled u) :
    (x.isInfo u).toNat + (x.isRefused u).toNat = 1 := by
  cases h with
  | served hturn hserve => rw [isInfo_of_info hturn, isRefused_of_info hturn]; rfl
  | refused hturn hwrote hchecked hdiagnostics =>
    rw [isInfo_of_edit hturn, isRefused_of_ok hturn hchecked, hdiagnostics]
    rfl

theorem Lawful.checked_eq_none (h : x.Lawful u) (hwrote : x.wrote = none) : x.checked = none := by
  have hchecked := h.checked
  rw [hwrote, Option.map_none, ite_self] at hchecked
  exact Option.map_eq_none_iff.1 hchecked

/-- Only a result is written. -/
theorem Lawful.wrote_eq_none (h : x.Lawful u) (hturn : ∀ text, x.turn? u ≠ some (.edit text)) :
    x.wrote = none := by
  cases hwrote : x.wrote with
  | none => rfl
  | some written =>
    obtain ⟨text, hedit, -⟩ := (h.wrote written.1 written.2).1 hwrote
    exact absurd hedit (hturn text)

theorem Handled.not_raised (h : x.Handled u) (hl : x.Lawful u) (e : Failure) : ¬ x.Raised e := by
  rintro (hreply | ⟨g, hchecked⟩)
  · refine not_handled_of_turn? ?_ h
    rw [turn?, hreply]
    rfl
  · cases h with
    | served hturn hserve =>
      have hnone := hl.checked_eq_none (hl.wrote_eq_none fun text => by simp [hturn])
      rw [hnone] at hchecked
      cases hchecked
    | refused hturn hwrote hok hdiagnostics =>
      rw [hok] at hchecked
      cases hchecked

theorem not_handled_of_finished {result : SessionResult} (hl : x.Lawful u)
    (h : x.Leads u (.finished result)) : ¬ x.Handled u := by
  cases h with
  | @finished content g outcome hwrote hchecked hclean =>
    intro handled
    cases handled with
    | served hturn hserve =>
      obtain ⟨text, hedit, -⟩ := (hl.wrote content g).1 hwrote
      rw [hturn] at hedit
      cases hedit
    | @refused _ _ o _ hturn _ hok hdiagnostics =>
      rw [hchecked] at hok
      cases outcome with
      | none => cases hok
      | some o' =>
        cases hok
        rw [hclean o rfl] at hdiagnostics
        cases hdiagnostics

/-- A round goes on just if its exchange is handled. -/
theorem Leads.again_iff {r : Round} (hl : x.Lawful u) (h : x.Leads u r) : r = .again ↔ x.Handled u := by
  cases h with
  | again handled => simp [handled]
  | finished hwrote hchecked hclean =>
    have hnot := not_handled_of_finished hl (.finished (u := u) hwrote hchecked hclean)
    simp [hnot]
  | failed hnot hlimit => simp [hnot]

end Exchange

namespace Setup

variable {u : Setup σ} {s s' s₀ : RunState σ} {r : Round} {content reply : Text}

theorem write_log_of_ok (h : (write u content s).1 = .ok ()) :
    (write u content s).2.log = s.log ++ [.wrote content (write u content s).2.files] := by
  rw [write_fst] at h
  rw [write_files]
  simp only [write, h]
  rfl

theorem write_files_of_error {e : Failure} (h : (write u content s).1 = .error e) :
    (write u content s).2.files = s.files := by
  rw [write_fst] at h
  rw [write_files]
  rcases u.put_cases s.session.target s.files content s.outside with ⟨e, he⟩ | ⟨l, bytes, t, ht, -⟩
  · rw [he]
  · rw [ht] at h
    cases h

theorem write_log_of_error {e : Failure} (h : (write u content s).1 = .error e) :
    (write u content s).2.log = s.log := by
  rw [write_fst] at h
  simp only [write, h]

/-- What a round in which the agent is asked does: it puts down an exchange, counts it, and leads to
what the exchange does. -/
structure Exchanged (u : Setup σ) (s : RunState σ) (x : Exchange σ) (r : Round) (s' : RunState σ) :
    Prop where
  session : x.session = { s.session with rounds := s.session.rounds + 1 }
  files : x.files = s.files
  outside : x.outside = s.outside
  filesLeft : s'.files = x.filesLeft
  left : s'.outside = x.left u
  log : s'.log = s.log ++ x.events
  counters : ∃ pending, s'.session = { x.session with
    pending := pending
    infoRounds := x.session.infoRounds + (x.isInfo u).toNat
    repairRounds := x.session.repairRounds + (x.isRefused u).toNat }
  lawful : x.Lawful u
  leads : x.Leads u r

/-- The exchange of a call after which nothing was written. -/
def exchange (u : Setup σ) (s : RunState σ) : Exchange σ where
  session := (u.ask s).2.session
  files := s.files
  outside := s.outside
  reply := (u.ask s).1

theorem turn?_exchange (hask : (u.ask s).1 = .ok reply) :
    (exchange u s).turn? u = (Turn.ofReply u.room.json reply).toOption := by
  simp only [Exchange.turn?, exchange, hask]
  rfl

theorem lawful_exchange (h : ∀ text, (exchange u s).turn? u = some (.edit text) →
    (u.put s.session.target s.files (Text.trim text) (u.ask s).2.outside).1 ≠ .ok ()) :
    (exchange u s).Lawful u where
  reply := rfl
  wrote := by
    intro content g
    constructor
    · intro hwrote
      cases hwrote
    · rintro ⟨text, hturn, rfl, hwrite, -⟩
      refine absurd ?_ (h text hturn)
      exact congrArg Prod.fst hwrite
  checked := (ite_self none).symm
  said := by
    intro outcome g hchecked
    cases hchecked

def writing (u : Setup σ) (s : RunState σ) (content : Text)
    (outcome : Option (Except Failure Outcome)) : Exchange σ :=
  let g := (write u content (u.ask s).2).2.files
  { exchange u s with wrote := some (content, g), checked := outcome.map (·, g) }

theorem turn?_writing {text : Text} {outcome : Option (Except Failure Outcome)}
    (hask : (u.ask s).1 = .ok reply) (hturn : Turn.ofReply u.room.json reply = .ok (.edit text)) :
    (writing u s content outcome).turn? u = some (.edit text) := by
  change (exchange u s).turn? u = _
  rw [turn?_exchange hask, hturn]
  rfl

theorem lawful_writing {text : Text} {outcome : Option (Except Failure Outcome)}
    (hask : (u.ask s).1 = .ok reply) (hturn : Turn.ofReply u.room.json reply = .ok (.edit text))
    (hwrite : (write u (Text.trim text) (u.ask s).2).1 = .ok ())
    (hcheck : outcome.isSome = s.session.check)
    (hsaid : ∀ o ∈ outcome, (checkTarget u (write u (Text.trim text) (u.ask s).2).2).1 = o) :
    (writing u s (Text.trim text) outcome).Lawful u where
  reply := rfl
  wrote := by
    have hturn' : (writing u s (Text.trim text) outcome).turn? u = some (.edit text) :=
      turn?_writing hask hturn
    rw [write_fst] at hwrite
    intro content g
    constructor
    · intro hwrote
      obtain ⟨rfl, rfl⟩ := Prod.mk.inj (Option.some.inj hwrote)
      rw [write_files]
      exact ⟨text, hturn', rfl, Prod.ext hwrite rfl, rfl⟩
    · rintro ⟨text', hedit, rfl, hdone, hcwd⟩
      obtain rfl : text = text' := Turn.edit.inj (Option.some.inj (hturn'.symm.trans hedit))
      have htree : (u.put s.session.target s.files (Text.trim text) (u.ask s).2.outside).2 = g.tree :=
        congrArg Prod.snd hdone
      have hcwd' : s.files.cwd = g.cwd := hcwd.symm
      change some (Text.trim text, (write u (Text.trim text) (u.ask s).2).2.files) = some (_, g)
      rw [write_files, ask_files, ask_session, htree]
      exact congrArg (fun cwd => some (_, Files.mk g.tree cwd)) hcwd'
  checked := by
    change (outcome.map _).map Prod.snd = if s.session.check then _ else _
    rw [← hcheck]
    cases outcome <;> rfl
  said := by
    intro o g hchecked
    obtain ⟨o', ho, heq⟩ := Option.map_eq_some_iff.1 hchecked
    obtain ⟨rfl, rfl⟩ := Prod.mk.inj heq
    rw [← hsaid o' ho, checkTarget_fst, write_session, write_outside]
    rfl

/-! What the log gets when a result is written, and then when it is checked, and the state that this
leaves. -/

theorem log_write (hwrite : (write u content (u.ask s).2).1 = .ok ()) :
    (write u content (u.ask s).2).2.log = s.log ++ (writing u s content none).events := by
  rw [write_log_of_ok hwrite]
  exact List.append_assoc _ _ _

theorem log_checkTarget {outcome : Except Failure Outcome}
    (hwrite : (write u content (u.ask s).2).1 = .ok ())
    (houtcome : (checkTarget u (write u content (u.ask s).2).2).1 = outcome) :
    (checkTarget u (write u content (u.ask s).2).2).2.log =
      s.log ++ (writing u s content (some outcome)).events := by
  subst houtcome
  have hlog : (checkTarget u (write u content (u.ask s).2).2).2.log =
      (write u content (u.ask s).2).2.log ++ [.checked (checkTarget u (write u content (u.ask s).2).2).1
        (write u content (u.ask s).2).2.files] := rfl
  rw [hlog, log_write hwrite, List.append_assoc]
  rfl

theorem outside_checkTarget (outcome : Except Failure Outcome) :
    (checkTarget u (write u content (u.ask s).2).2).2.outside =
      (writing u s content (some outcome)).left u := by
  rw [checkTarget_outside, write_session, write_outside]
  rfl

theorem Edits.exchanged {text : Text} (hask : (u.ask s).1 = .ok reply)
    (hturn : Turn.ofReply u.room.json reply = .ok (.edit text)) (h : Edits u text (u.ask s).2 r s') :
    ∃ x, Exchanged u s x r s' := by
  have hedit : (exchange u s).turn? u = some (.edit text) := by
    rw [turn?_exchange hask, hturn]
    rfl
  have hwriting (outcome) : (writing u s (Text.trim text) outcome).turn? u = some (.edit text) :=
    turn?_writing hask hturn
  have hdone : (write u (Text.trim text) (u.ask s).2).1 =
      (u.put s.session.target s.files (Text.trim text) (u.ask s).2.outside).1 := write_fst _ _ _
  have hleft : (write u (Text.trim text) (u.ask s).2).2.outside = (u.ask s).2.outside :=
    write_outside _ _ _
  have hlawful {o} (hwrite : (write u (Text.trim text) (u.ask s).2).1 = .ok ())
      (hcheck : s.session.check = true)
      (houtcome : (checkTarget u (write u (Text.trim text) (u.ask s).2).2).1 = o) :
      (writing u s (Text.trim text) (some o)).Lawful u :=
    lawful_writing hask hturn hwrite hcheck.symm (by simpa using houtcome)
  cases h with
  | unwritten hwrite =>
    refine ⟨exchange u s, rfl, rfl, rfl, write_files_of_error hwrite, hleft, write_log_of_error hwrite,
      ⟨s.session.pending, ?_⟩, ?_, ?_⟩
    · rw [Exchange.isInfo_of_edit hedit, Exchange.isRefused_of_unchecked rfl, write_session]
      rfl
    · refine lawful_exchange fun text' hedit' => ?_
      obtain rfl : text = text' := Turn.edit.inj (Option.some.inj (hedit.symm.trans hedit'))
      rw [← hdone, hwrite]
      simp
    · refine .failed ?_ ?_
      · rintro (⟨hinfo, -⟩ | ⟨-, hwrote, -, -⟩)
        · rw [hedit] at hinfo
          cases hinfo
        · cases hwrote
      · rintro limit rounds rfl
        rw [hdone] at hwrite
        cases Files.writeAtomicUnless_fails _ _ _ _ _ hwrite
  | unchecked hwrite hcheck =>
    refine ⟨writing u s (Text.trim text) none, rfl, rfl, rfl, rfl, hleft, log_write hwrite,
      ⟨s.session.pending, ?_⟩, lawful_writing hask hturn hwrite hcheck.symm (by simp), ?_⟩
    · rw [Exchange.isInfo_of_edit (hwriting _), Exchange.isRefused_of_unchecked rfl, write_session]
      rfl
    · exact @Exchange.Leads.finished _ _ _ _ _ none rfl rfl (by simp)
  | @uncheckable e hwrite hcheck houtcome =>
    refine ⟨_, rfl, rfl, rfl, rfl, outside_checkTarget _, log_checkTarget hwrite houtcome,
      ⟨s.session.pending, ?_⟩, hlawful hwrite hcheck houtcome, ?_⟩
    · rw [Exchange.isInfo_of_edit (hwriting _), Exchange.isRefused_of_error rfl, checkTarget_session,
        write_session]
      rfl
    · refine .failed ?_ fun _ _ _ => .inr ⟨_, rfl⟩
      rintro (⟨hinfo, -⟩ | ⟨-, -, hok, -⟩)
      · rw [hwriting] at hinfo
        cases hinfo
      · cases hok
  | @accepted o hwrite hcheck houtcome hclean =>
    have hno : o.hasDiagnostics = false := by rw [Outcome.hasDiagnostics, hclean]; rfl
    refine ⟨_, rfl, rfl, rfl, rfl, outside_checkTarget _, log_checkTarget hwrite houtcome,
      ⟨s.session.pending, ?_⟩, hlawful hwrite hcheck houtcome, ?_⟩
    · rw [Exchange.isInfo_of_edit (hwriting _), Exchange.isRefused_of_ok (hwriting _) rfl, hno,
        checkTarget_session, write_session]
      rfl
    · refine @Exchange.Leads.finished _ _ _ _ _ (some o) rfl rfl ?_
      intro o' ho'
      cases ho'
      exact hno
  | @refused o diagnostics hwrite hcheck houtcome hdiagnostics =>
    have hyes : o.hasDiagnostics = true := by rw [Outcome.hasDiagnostics, hdiagnostics]; rfl
    refine ⟨_, rfl, rfl, rfl, rfl, outside_checkTarget _, log_checkTarget hwrite houtcome,
      ⟨Prompt.repair s.session.target.toText (Text.trim text) diagnostics, ?_⟩,
      hlawful hwrite hcheck houtcome, ?_⟩
    · rw [Exchange.isInfo_of_edit (hwriting _), Exchange.isRefused_of_ok (hwriting _) rfl, hyes, repair,
        checkTarget_session, write_session]
      rfl
    · exact .again (.refused (hwriting _) rfl rfl hyes)

/-- A round spends nothing and asks nobody, or it is an exchange. -/
theorem Goes.exchanged (h : Goes u s r s') :
    (isSpent s.session = true ∧ s' = s ∧
      r = .failed (.roundLimit (s.session.maxRounds.getD 0) s.session.rounds)) ∨
    (isSpent s.session = false ∧ ∃ x, Exchanged u s x r s') := by
  cases h with
  | spent hspent => exact .inl ⟨hspent, rfl, rfl⟩
  | @unanswered e hspent hask =>
    have hturn : (exchange u s).turn? u = none := by
      simp only [Exchange.turn?, exchange, hask]
      rfl
    refine .inr ⟨hspent, exchange u s, rfl, rfl, rfl, rfl, rfl, rfl, ⟨s.session.pending, ?_⟩, ?_, ?_⟩
    · rw [Exchange.isInfo_of_none hturn, Exchange.isRefused_of_unchecked rfl]
      rfl
    · exact lawful_exchange fun text hedit => by simp [hturn] at hedit
    · refine .failed (Exchange.not_handled_of_turn? hturn) ?_
      rintro limit rounds rfl
      exact .inl hask
  | @unread reply e hspent hask hread =>
    have hturn : (exchange u s).turn? u = none := by
      rw [turn?_exchange hask, hread]
      rfl
    refine .inr ⟨hspent, exchange u s, rfl, rfl, rfl, rfl, rfl, rfl, ⟨s.session.pending, ?_⟩, ?_, ?_⟩
    · rw [Exchange.isInfo_of_none hturn, Exchange.isRefused_of_unchecked rfl]
      rfl
    · exact lawful_exchange fun text hedit => by simp [hturn] at hedit
    · refine .failed (Exchange.not_handled_of_turn? hturn) ?_
      intro limit rounds he
      cases he
  | @served reply answer requests hspent hask hread hserve =>
    have hturn : (exchange u s).turn? u = some (.info requests) := by
      rw [turn?_exchange hask, hread]
      rfl
    refine .inr ⟨hspent, exchange u s, rfl, rfl, rfl, rfl, rfl, rfl, ⟨answer, ?_⟩, ?_, ?_⟩
    · rw [Exchange.isInfo_of_info hturn, Exchange.isRefused_of_info hturn]
      rfl
    · exact lawful_exchange fun text hedit => by simp [hturn] at hedit
    · exact .again (.served hturn hserve)
  | @unserved reply requests e hspent hask hread hserve =>
    have hturn : (exchange u s).turn? u = some (.info requests) := by
      rw [turn?_exchange hask, hread]
      rfl
    refine .inr ⟨hspent, exchange u s, rfl, rfl, rfl, rfl, rfl, rfl, ⟨s.session.pending, ?_⟩, ?_, ?_⟩
    · rw [Exchange.isInfo_of_info hturn, Exchange.isRefused_of_info hturn]
      rfl
    · exact lawful_exchange fun text hedit => by simp [hturn] at hedit
    · refine .failed ?_ ?_
      · rintro (⟨hinfo, hok⟩ | ⟨hedit, -, -, -⟩)
        · rw [hturn] at hinfo
          cases hinfo
          exact absurd (hserve.symm.trans hok) (by simp)
        · rw [hturn] at hedit
          cases hedit
      · rintro limit rounds rfl
        cases Source.serve_fails _ _ _ _ (Turn.named_of_ofReply hread) _ hserve
  | edited hspent hask hread hedit => exact .inr ⟨hspent, hedit.exchanged hask hread⟩

end Setup

end Redraft
