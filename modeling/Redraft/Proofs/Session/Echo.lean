import Redraft.Proofs.Reply.Turn
import Redraft.Proofs.Session.Prompts
import Redraft.Proofs.Text.Blank
import Redraft.Proofs.Text.Newline

/-!
An agent that gives the target back as it read it. The file is then the text without the white space
around it, and every further edit of this kind leaves the files as they are.
-/
namespace Redraft

open Text Turn

def Turn.echo (before text after : Text) : Text :=
  before ++ (resultOpen ++ ((newline :: text ++ [newline]) ++ (resultClose ++ after)))

section Reading

variable {before text after : Text}

theorem Text.infix_line {mark : Text} {c : CodePoint} (hc : c ≠ newline) (hmark : newline ∉ mark) :
    c :: mark <:+: newline :: text ++ [newline] ↔ c :: mark <:+: text := by
  have hstart : c ∉ [newline] := by simpa using hc
  have hend : ¬ c :: mark <:+: [newline] := fun h => hstart (h.subset List.mem_cons_self)
  rw [infix_append_cons hmark, or_iff_left hend]
  exact infix_append_iff_right hstart

theorem Turn.show_infix_of_tag {tag rest : Text} (htag : tag = resultOpen ∨ tag = resultClose)
    (h : showOpen <:+: tag ++ rest) : showOpen <:+: rest := by
  have hshow : showOpen = .scalar '<' :: Text.ofString "SHOW>" := rfl
  obtain ⟨c, name, rfl, hname, hlt⟩ : ∃ c name, tag = .scalar '<' :: c :: name ∧ c ≠ .scalar 'S' ∧
      .scalar '<' ∉ c :: name := by
    rcases htag with rfl | rfl
    · exact ⟨_, Text.ofString "ESULT>", rfl, by decide, by decide⟩
    · exact ⟨_, Text.ofString "RESULT>", rfl, by decide, by decide⟩
  rw [List.cons_append, List.infix_cons_iff] at h
  rcases h with ⟨_, hprefix⟩ | h
  · have hsecond := congrArg (·[1]?) hprefix
    exact absurd (Option.some.inj hsecond).symm hname
  · rw [hshow] at h ⊢
    exact (infix_append_iff_right hlt).1 h

theorem Turn.not_show_echo (hbefore : ¬ showOpen <:+: before) (hshow : ¬ showOpen <:+: text)
    (hafter : ¬ showOpen <:+: after) : ¬ showOpen <:+: echo before text after := by
  have htail : .scalar '<' ∉ showOpen.tail := by decide
  have hline : ¬ showOpen <:+: newline :: text ++ [newline] :=
    mt (infix_line (by decide) (by decide)).1 hshow
  intro h
  rcases (infix_append_cons htail).1 h with h | h
  · exact hbefore h
  · rcases (infix_append_cons htail).1 (show_infix_of_tag (.inl rfl) h) with h | h
    · exact hline h
    · exact hafter (show_infix_of_tag (.inr rfl) h)

theorem Turn.ofReply_echo (room : Nat) (hbefore : ¬ showOpen <:+: before) (hopen : ¬ resultOpen <:+: before)
    (hshow : ¬ showOpen <:+: text) (hclose : ¬ resultClose <:+: text)
    (hafter : ¬ showOpen <:+: after) :
    ofReply room (echo before text after) = .ok (.edit (newline :: text ++ [newline])) := by
  have hline : ¬ resultClose <:+: newline :: text ++ [newline] :=
    mt (infix_line (by decide) (by decide)).1 hclose
  exact ofReply_eq_edit (not_show_echo hbefore hshow hafter) (firstAt_append (by decide) hopen _)
    (firstAt_append (by decide) hline after)

theorem Text.trim_line (text : Text) : trim (newline :: text ++ [newline]) = trim text := by
  have hblank : isBlank [newline] = true := by decide
  calc trim (newline :: text ++ [newline])
      = trim (trimEnd (newline :: text ++ [newline])) := (trim_trimEnd _).symm
    _ = trim (trimEnd (newline :: text)) := by rw [trimEnd_append, hblank, if_pos rfl]
    _ = trim (newline :: text) := trim_trimEnd _
    _ = trim (trimStart ([newline] ++ text)) := (trim_trimStart _).symm
    _ = trim (trimStart text) := by rw [trimStart_append, hblank, if_pos rfl]
    _ = trim text := trim_trimStart text

end Reading

namespace Files

variable {f g : Files} {p : Path} {content text : Text} {l : Location} {bytes : Bytes}

theorem exists_stat_of_readText (h : f.readText p = .ok text) :
    ∃ bytes mode, f.stat p = .ok (.file bytes mode) := by
  obtain ⟨bytes, hbytes, -⟩ := bind_eq_ok.1 h
  obtain ⟨-, mode, hstat⟩ := readBytes_eq_ok.1 hbytes
  exact ⟨bytes, mode, hstat⟩

theorem not_leadsBack {mode : Nat} (h : f.stat p = .ok (.file bytes mode)) : ¬ f.LeadsBack p := by
  rintro (⟨m, hdir⟩ | hlinks)
  · rw [h] at hdir
    cases hdir
  · rw [h] at hlinks
    cases hlinks

theorem cr_notMem_readText (h : f.readText p = .ok text) : .scalar '\r' ∉ text := by
  obtain ⟨bytes, -, h⟩ := bind_eq_ok.1 h
  cases hdecode : Utf8.decode bytes with
  | error fault =>
    rw [hdecode] at h
    cases h
  | ok t =>
    rw [hdecode] at h
    exact Except.ok.inj h ▸ cr_notMem_unifyNewlines t

/-- A text that was written is read as it is, if no line end in it is a carriage return. -/
theorem readText_of_readBytes (h : g.readBytes p = .ok bytes) (hencode : Utf8.encode content = .ok bytes)
    (hcr : .scalar '\r' ∉ content) : g.readText p = .ok content := by
  rw [readText, h]
  change decoded (Utf8.decode bytes) = _
  rw [Utf8.decode_encode hencode, decoded, unifyNewlines_of_notMem hcr]

theorem Wrote.readBytes {old : Bytes} {mode : Nat} (hp : p.Plain)
    (hold : f.stat p = .ok (.file old mode)) (hcwd : g.cwd = f.cwd)
    (h : f.Wrote p content l bytes g.tree) : g.readBytes p = .ok bytes := by
  have hway : ¬ f.RunsThrough p l := fun hthrough =>
    not_leadsBack hold (h.stat_of_runsThrough hp hcwd hthrough).2.1
  exact readBytes_eq_ok.2 ⟨h.nameable, _, h.stat hp hcwd hway⟩

/-- The same content written once more changes no entry. -/
theorem Wrote.again {m : Location} {bytes' : Bytes} {t : Tree} (hp : p.Plain)
    (h : f.Wrote p content l bytes g.tree) (hcwd : g.cwd = f.cwd) (h' : g.Wrote p content m bytes' t) :
    bytes' = bytes ∧ ∀ k, t.node? k = g.tree.node? k := by
  obtain rfl : bytes' = bytes := Except.ok.inj (h'.encoded.symm.trans h.encoded)
  have htwice := h.trans hp hcwd h'
  obtain rfl := h.entry_eq hcwd h'
  refine ⟨rfl, fun k => ?_⟩
  by_cases hk : k = m
  · rw [hk, htwice.node, h.node]
  · exact h'.others k hk

end Files

namespace Setup

variable {σ : Type} {u : Setup σ} {s s' : RunState σ} {text : Text}

/-- The agent may be asked, and when it is asked it gives a text back; checking is off. -/
structure Echoes (u : Setup σ) (s : RunState σ) (text : Text) : Prop where
  unchecked : s.session.check = false
  unspent : isSpent s.session = false
  reply : ∃ before after, ¬ showOpen <:+: before ∧ ¬ resultOpen <:+: before ∧ ¬ showOpen <:+: after ∧
    (u.ask s).1 = .ok (echo before text after)

/-- A session with such an agent is one round, which writes the text. -/
theorem Echoes.run (h : Echoes u s text) (hshow : ¬ showOpen <:+: text)
    (hclose : ¬ resultClose <:+: text) : ∃ x s', (∀ n, u.run (n + 1) s = some (x, s')) ∧
      s'.files = { s.files with tree := (u.put s.session.target s.files (trim text) (u.ask s).2.outside).2 } ∧
      (∀ e, (u.put s.session.target s.files (trim text) (u.ask s).2.outside).1 = .error e → x = .error e) ∧
      ((u.put s.session.target s.files (trim text) (u.ask s).2.outside).1 = .ok () →
        ∃ result, x = .ok result ∧ result.content = trim text) := by
  obtain ⟨before, after, hbefore, hopen, hafter, hask⟩ := h.reply
  have hturn := ofReply_echo u.room.json hbefore hopen hshow hclose hafter
  have hround {r : Round} {s' : RunState σ}
      (hedit : Edits u (newline :: text ++ [newline]) (u.ask s).2 r s') : u.round s = (r, s') :=
    (Goes.edited h.unspent hask hturn hedit).eq_round
  have hwrite : (write u (trim (newline :: text ++ [newline])) (u.ask s).2).1 =
      (u.put s.session.target s.files (trim text) (u.ask s).2.outside).1 := by
    rw [write_fst, trim_line, ask_files, ask_session]
  have hfiles : (write u (trim (newline :: text ++ [newline])) (u.ask s).2).2.files =
      { s.files with tree := (u.put s.session.target s.files (trim text) (u.ask s).2.outside).2 } := by
    rw [write_files, trim_line, ask_files, ask_session]
  cases hdone : (u.put s.session.target s.files (trim text) (u.ask s).2.outside).1 with
  | error e =>
    have hgoes := hround (.unwritten (hwrite.trans hdone))
    refine ⟨.error e, _, fun n => ?_, hfiles, ?_, ?_⟩
    · rw [Setup.run, hgoes]
    · rintro e' he
      cases he
      rfl
    · intro hok
      cases hok
  | ok _ =>
    have hgoes := hround (.unchecked (hwrite.trans hdone) h.unchecked)
    refine ⟨.ok ((u.ask s).2.session.result (trim (newline :: text ++ [newline])) none), _,
      fun n => ?_, hfiles, ?_, ?_⟩
    · rw [Setup.run, hgoes]
    · intro e he
      cases he
    · intro _
      exact ⟨_, rfl, trim_line text⟩

/-- Giving the target back is a stable edit. The one round of the session writes the text that was
read without the white space around it, or leaves all files as they were. From then on the text that
is read is the one on disk, and no such session, with whatever agent and prompt, changes a file. -/
theorem echo_stable (u : Setup σ) (s : RunState σ) (text : Text) (hp : s.session.target.Plain)
    (hread : s.files.readText s.session.target = .ok text) (hshow : ¬ showOpen <:+: text)
    (hclose : ¬ resultClose <:+: text) (hecho : Echoes u s text) :
    ∃ x s', (∀ n, u.run (n + 1) s = some (x, s')) ∧
      (∀ e, (u.put s.session.target s.files (trim text) (u.ask s).2.outside).1 = .error e →
        x = .error e ∧ s'.files = s.files) ∧
      ((u.put s.session.target s.files (trim text) (u.ask s).2.outside).1 = .ok () →
        ∃ result bytes, x = .ok result ∧ result.content = trim text ∧
          Utf8.encode (trim text) = .ok bytes ∧
          s'.files.readBytes s.session.target = .ok bytes ∧
          s'.files.readText s.session.target = .ok (trim text) ∧
          ∀ (τ : Type) (v : Setup τ) (t : RunState τ), t.files = s'.files →
            t.session.target = s.session.target → Echoes v t (trim text) →
            ∃ y t', (∀ n, v.run (n + 1) t = some (y, t')) ∧
              t'.files.readBytes s.session.target = .ok bytes ∧ t'.files.cwd = s'.files.cwd ∧
              ∀ l, t'.files.tree.node? l = s'.files.tree.node? l) := by
  obtain ⟨x, s', hrun, hfiles, herror, hok⟩ := hecho.run hshow hclose
  obtain ⟨old, mode, hold⟩ := Files.exists_stat_of_readText hread
  refine ⟨x, s', hrun, fun e he => ⟨herror e he, ?_⟩, fun hdone => ?_⟩
  · rcases u.put_cases s.session.target s.files (trim text) (u.ask s).2.outside with
      ⟨_, hw⟩ | ⟨_, _, _, hw, -⟩
    · rw [hfiles, hw]
    · rw [hw] at he
      cases he
  · obtain ⟨result, hx, hcontent⟩ := hok hdone
    have hcwd : s'.files.cwd = s.files.cwd := by rw [hfiles]
    obtain ⟨l, bytes, hwrote⟩ : ∃ l bytes,
        s.files.Wrote s.session.target (trim text) l bytes s'.files.tree := by
      rw [hfiles]
      exact Files.exists_wrote (Prod.ext hdone rfl)
    have hbytes := hwrote.readBytes hp hold hcwd
    have hcr : .scalar '\r' ∉ trim text := fun h =>
      Files.cr_notMem_readText hread ((isInfix_trim text).subset h)
    refine ⟨result, bytes, hx, hcontent, hwrote.encoded, hbytes,
      Files.readText_of_readBytes hbytes hwrote.encoded hcr, ?_⟩
    intro τ v t htfiles htarget hv
    obtain ⟨y, t', hrun', hfiles', -, -⟩ := hv.run (fun h => hshow (h.trans (isInfix_trim text)))
      (fun h => hclose (h.trans (isInfix_trim text)))
    rw [htfiles, htarget, trim_trim] at hfiles'
    have hcwd' : t'.files.cwd = s'.files.cwd := by rw [hfiles']
    refine ⟨y, t', hrun', ?_⟩
    rcases v.put_cases s.session.target s'.files (trim text) (v.ask t).2.outside with
      ⟨_, hw⟩ | ⟨m, bytes', _, hw, h⟩
    · have hsame : t'.files = s'.files := by rw [hfiles', hw]
      rw [hsame]
      exact ⟨hbytes, rfl, fun _ => rfl⟩
    · have hagain : s'.files.Wrote s.session.target (trim text) m bytes' t'.files.tree := by
        rw [hfiles', hw]
        exact h
      obtain ⟨rfl, hnodes⟩ := hwrote.again hp hcwd hagain
      exact ⟨(hwrote.trans hp hcwd hagain).readBytes hp hold (hcwd'.trans hcwd), hcwd', hnodes⟩

/-- The start of a session on a file with white space around its text and with other line ends, where
the agent gives the text back. -/
def untrimmed : RunState (List Text) where
  session := { target := .ofText "a", pending := "go" }
  files := ⟨⟨[(["a"], .file [32, 120, 13, 10, 121, 13, 10] 0o640)]⟩, []⟩
  outside := [echo "Nothing to do: " " x\ny\n" "."]

/-- The bytes after the session, and after a second one with the text that is then read. -/
theorem echo_stable_untrimmed : untrimmed.session.target.Plain ∧
    untrimmed.files.readText (.ofText "a") = .ok (Text.ofString " x\ny\n") ∧
    ∃ x s', refusing.run 1 untrimmed = some (x, s') ∧
      s'.files.readBytes (.ofText "a") = .ok [120, 10, 121] ∧
      ∃ y t', refusing.run 1 { untrimmed with files := s'.files, outside := [echo [] "x\ny" []] } =
        some (y, t') ∧ t'.files.readBytes (.ofText "a") = .ok [120, 10, 121] := by
  have hp : untrimmed.session.target.Plain := Path.plain_ofText "a"
  have hread : untrimmed.files.readText (.ofText "a") = .ok (Text.ofString " x\ny\n") := by rfl
  have htrim : trim (Text.ofString " x\ny\n") = Text.ofString "x\ny" := by decide +kernel
  have hdone : (untrimmed.files.writeAtomic (.ofText "a") (trim (Text.ofString " x\ny\n"))).1 =
      .ok () := by
    have hsome : (untrimmed.files.writeAtomic (.ofText "a")
        (trim (Text.ofString " x\ny\n"))).1.toOption = some () := by decide +kernel
    cases hw : (untrimmed.files.writeAtomic (.ofText "a") (trim (Text.ofString " x\ny\n"))).1 with
    | error e =>
      rw [hw] at hsome
      cases hsome
    | ok _ => rfl
  have hecho : Echoes refusing untrimmed (Text.ofString " x\ny\n") :=
    ⟨rfl, rfl, "Nothing to do: ", ".", by decide +kernel, by decide +kernel, by decide +kernel, rfl⟩
  obtain ⟨x, s', hrun, -, hok⟩ := echo_stable refusing untrimmed (Text.ofString " x\ny\n") hp hread
    (by decide +kernel) (by decide +kernel) hecho
  obtain ⟨result, bytes, -, -, hencode, hbytes, -, hagain⟩ := hok hdone
  have hexact : Utf8.encode (Text.ofString "x\ny") = .ok [120, 10, 121] := by decide +kernel
  rw [htrim] at hencode hagain
  obtain rfl := Except.ok.inj (hencode.symm.trans hexact)
  have hnext : Echoes refusing { untrimmed with files := s'.files, outside := [echo [] "x\ny" []] }
      (Text.ofString "x\ny") :=
    ⟨rfl, rfl, [], [], by decide +kernel, by decide +kernel, by decide +kernel, rfl⟩
  obtain ⟨y, t', hrun', hbytes', -⟩ := hagain _ refusing
    { untrimmed with files := s'.files, outside := [echo [] "x\ny" []] } rfl rfl hnext
  exact ⟨hp, hread, x, s', hrun 0, hbytes, y, t', hrun' 0, hbytes'⟩

end Setup

end Redraft
