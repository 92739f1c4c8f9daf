import Redraft.Prompt.System
import Redraft.Proofs.Files.Failing
import Redraft.Proofs.Prompt.Input
import Redraft.Proofs.Template.Plain
import Redraft.Proofs.Text.Newline

/-!
The template of the system prompt. It is well formed and uses no name but that of the guide, so that
every guide gives a prompt: the instructions, the guide if there is one, and the worked example.
-/
namespace Redraft

namespace Text

variable {sep : Text}

theorem mem_join {c : CodePoint} {ls : List Text} (h : c ∈ join sep ls) :
    c ∈ sep ∨ ∃ l ∈ ls, c ∈ l := by
  induction ls with
  | nil => cases h
  | cons l ls ih =>
    cases ls with
    | nil => exact .inr ⟨l, List.mem_cons_self, h⟩
    | cons m ls =>
      rw [join, List.mem_append, List.mem_append] at h
      · rcases h with (hl | hsep) | htail
        · exact .inr ⟨l, List.mem_cons_self, hl⟩
        · exact .inl hsep
        · rcases ih htail with hsep | ⟨k, hk, hc⟩
          · exact .inl hsep
          · exact .inr ⟨k, List.mem_cons_of_mem l hk, hc⟩
      · simp

end Text

namespace Prompt

open Template

def textOf (lines : List String) : Text := Text.join [Text.newline] (lines.map Text.ofString)

def guidePart : Text := "\x7b% if guide %\x7d\n\x7b\x7b guide \x7d\x7d\n\n\x7b% endif %\x7d\n"

def rawPart : Text :=
  Text.ofString "\n\x7b% raw %\x7d\n" ++ (textOf workedExample ++
    Text.newline :: Text.ofString "\x7b% endraw %\x7d")

theorem systemTemplate_eq : systemTemplate =
    textOf instructions ++ Text.newline :: (guidePart ++ (rawPart ++ [Text.newline])) := by
  have hguide : Text.join [Text.newline] (guideSection.map Text.ofString) = guidePart := rfl
  have hraw : Text.join [Text.newline] (rawStart.map Text.ofString) =
      Text.ofString "\x7b% raw %\x7d" := rfl
  have hend : Text.join [Text.newline] (rawEnd.map Text.ofString) =
      Text.ofString "\x7b% endraw %\x7d" ++ [Text.newline] := rfl
  change Text.join [Text.newline] _ = _
  simp only [List.map_append]
  rw [Text.join_append, Text.join_append, Text.join_append, Text.join_append, hguide, hraw, hend]
  · simp only [rawPart, textOf, List.append_assoc, List.cons_append, List.nil_append]
    rfl
  all_goals simp [instructions, guideSection, rawStart, rawEnd, workedExample, exampleStart]

def isInert (marks : List CodePoint) (t : Text) : Bool :=
  !t.contains (.scalar '\r') && isPlain marks t

/-- What holds of one line and of all further ones. The line is given by its characters, which is
cheaper than to decode it. -/
theorem all_lines_cons {p : Text → Bool} {cs : List Char} {ls : List String}
    (h : p (cs.map .scalar)) (hls : (ls.map Text.ofString).all p) :
    ((String.ofList cs :: ls).map Text.ofString).all p := by
  rw [List.map_cons, List.all_cons, hls, Text.ofString, String.toList_ofList, h]
  rfl

set_option maxRecDepth 4000 in
theorem isInert_instructions : (instructions.map Text.ofString).all (isInert tagMarks) := by
  rw [instructions]
  repeat (refine all_lines_cons ?_ ?_; · decide +kernel)
  rfl

set_option maxRecDepth 4000 in
theorem isInert_workedExample : (workedExample.map Text.ofString).all (isInert blockMarks) := by
  have hsample : (sample.map Text.ofString).all (isInert blockMarks) := by
    rw [sample]
    repeat (refine all_lines_cons ?_ ?_; · decide +kernel)
    rfl
  have hstart : (exampleStart.map Text.ofString).all (isInert blockMarks) := by
    rw [exampleStart]
    repeat (refine all_lines_cons ?_ ?_; · decide +kernel)
    rfl
  have htalk : (exampleTalk.map Text.ofString).all (isInert blockMarks) := by
    rw [exampleTalk]
    repeat (refine all_lines_cons ?_ ?_; · decide +kernel)
    rfl
  have hend : (exampleEnd.map Text.ofString).all (isInert blockMarks) := by
    rw [exampleEnd]
    repeat (refine all_lines_cons ?_ ?_; · decide +kernel)
    rfl
  simp only [workedExample, List.map_append, List.all_append, hsample, hstart, htalk, hend, Bool.and_self]

section Inert

variable {marks : List CodePoint} {ls : List String}

theorem isPlain_textOf (hmarks : Text.newline ∉ marks)
    (h : (ls.map Text.ofString).all (isInert marks)) : isPlain marks (textOf ls) := by
  refine isPlain_join hmarks (List.all_eq_true.2 fun l hl => ?_)
  have hl := List.all_eq_true.1 h l hl
  rw [isInert, Bool.and_eq_true] at hl
  exact hl.2

theorem notMem_textOf (h : (ls.map Text.ofString).all (isInert marks)) :
    .scalar '\r' ∉ textOf ls := by
  intro hc
  rcases Text.mem_join hc with hsep | ⟨l, hl, hcl⟩
  · simp [Text.newline] at hsep
  · have hl := List.all_eq_true.1 h l hl
    rw [isInert, Bool.and_eq_true, Bool.not_eq_true', List.contains_eq_mem, decide_eq_false_iff_not] at hl
    exact hl.1 hcl

end Inert

theorem notMem_systemTemplate : .scalar '\r' ∉ systemTemplate := by
  have hguide : .scalar '\r' ∉ guidePart := by decide +kernel
  have hstart : .scalar '\r' ∉ Text.ofString "\n\x7b% raw %\x7d\n" := by decide +kernel
  have hend : .scalar '\r' ∉ Text.ofString "\x7b% endraw %\x7d" := by decide +kernel
  have hline : .scalar '\r' ≠ Text.newline := by decide
  simp only [systemTemplate_eq, rawPart, List.mem_append, List.mem_cons, List.not_mem_nil, hguide, hstart,
    hend, hline, notMem_textOf isInert_instructions, notMem_textOf isInert_workedExample, or_self,
    not_false_eq_true]

theorem body_systemTemplate : body systemTemplate =
    textOf instructions ++ Text.newline :: (guidePart ++ rawPart) := by
  rw [body, Text.unifyNewlines_of_notMem notMem_systemTemplate, systemTemplate_eq, ← List.append_assoc,
    ← List.cons_append, ← List.append_assoc, List.getLast?_concat, if_pos rfl, List.dropLast_concat]

theorem dataBefore_lines (lineStart : Bool) (s : Text) :
    dataBefore none false lineStart (s ++ [Text.newline]) = s ++ [Text.newline] := by
  have hmargin : ((s ++ [Text.newline]).reverse.takeWhile (· ≠ Text.newline)).reverse = [] := by
    rw [List.reverse_append]
    rfl
  unfold dataBefore
  dsimp only
  rw [hmargin, List.length_nil, Nat.sub_zero, List.take_length, if_neg (by decide), if_neg (by decide),
    ite_self]

set_option maxRecDepth 4000 in
theorem scanFrom_guidePart (size n : Nat) (t : Text) :
    scanFrom size (n + 18) (.block []) (guidePart.drop 2 ++ t) =
      [.name "if", .name "guide", .blockEnd, .data [], .outputBegin, .name "guide", .outputEnd,
        .data "\n\n", .blockBegin, .name "endif", .blockEnd] ++ scanFrom size (n + 2) (.data true) t := by
  rfl

theorem firstPlace_workedExample :
    firstPlace (wordTag? "endraw" (closing? blockClose false))
      (Text.newline :: (textOf workedExample ++ Text.newline :: Text.ofString "\x7b% endraw %\x7d")) =
        some (Text.newline :: textOf workedExample ++ [Text.newline], none, [], false) := by
  have hmarks : Text.newline ∉ blockMarks := by decide
  have hplain : isPlain blockMarks (Text.newline :: textOf workedExample) := by
    rw [← List.nil_append (Text.newline :: textOf workedExample), isPlain_append_newline hmarks,
      isPlain_textOf hmarks isInert_workedExample]
    rfl
  have hend : firstPlace (wordTag? "endraw" (closing? blockClose false))
      (Text.ofString "\x7b% endraw %\x7d") = some ([], none, [], false) := rfl
  rw [← List.cons_append, firstPlace_of_isPlain (fun t => wordTag?_eq_none List.mem_cons_self) hmarks
    hplain, hend, Option.map_some]

theorem scanFrom_raw (size n : Nat) {t inside : Text}
    (h : firstPlace (wordTag? "endraw" (closing? blockClose false)) (Text.newline :: t) =
      some (inside ++ [Text.newline], none, [], false)) :
    scanFrom size (n + 2) (.data true) (Text.ofString "\n\x7b% raw %\x7d\n" ++ t) =
      [.data [Text.newline], .data (inside ++ [Text.newline])] := by
  have hplace : firstPlace opening? (Text.ofString "\n\x7b% raw %\x7d\n" ++ t) =
      some ([Text.newline], none, .raw (Text.newline :: t) false) := rfl
  rw [scanFrom, hplace]
  dsimp only
  rw [h]
  dsimp only
  rw [dataBefore_lines, ← List.nil_append [Text.newline], dataBefore_lines]
  rfl

theorem scan_systemTemplate : scan systemTemplate =
    [.data (textOf instructions ++ [Text.newline]), .blockBegin, .name "if", .name "guide", .blockEnd,
      .outputBegin, .name "guide", .outputEnd, .data "\n\n", .blockBegin, .name "endif", .blockEnd,
      .data [Text.newline], .data (Text.newline :: textOf workedExample ++ [Text.newline])] := by
  have hmarks : Text.newline ∉ tagMarks := by decide
  have hplace : firstPlace opening? (textOf instructions ++ Text.newline :: (guidePart ++ rawPart)) =
      some (textOf instructions ++ [Text.newline], none, .block (guidePart.drop 2 ++ rawPart)) := by
    have hguide (t : Text) : firstPlace opening? (guidePart ++ t) =
        some ([], none, .block (guidePart.drop 2 ++ t)) := rfl
    rw [firstPlace_of_isPlain (fun t => opening?_eq_none) hmarks
      (isPlain_textOf hmarks isInert_instructions), hguide, Option.map_some]
  have hlength : 20 ≤ guidePart.length := by decide +kernel
  obtain ⟨n, hn⟩ : ∃ n, 2 * (body systemTemplate).length + 2 = n + 18 + 1 := by
    refine ⟨2 * (body systemTemplate).length + 2 - 19, ?_⟩
    rw [body_systemTemplate, List.length_append, List.length_cons, List.length_append]
    omega
  rw [scan, hn, scanFrom, body_systemTemplate, hplace]
  dsimp only
  rw [dataBefore_lines, scanFrom_guidePart, rawPart, scanFrom_raw _ _ firstPlace_workedExample]
  rfl

theorem parse_systemTemplate : parse systemTemplate = .ok [
    .text (textOf instructions ++ [Text.newline]),
    .choose (.name "guide") [.output (.name "guide"), .text "\n\n"] [],
    .text [Text.newline], .text (Text.newline :: textOf workedExample ++ [Text.newline])] := by
  rw [parse, scan_systemTemplate]
  generalize textOf instructions ++ [Text.newline] = start
  generalize Text.newline :: textOf workedExample ++ [Text.newline] = rest
  rfl

def guideShown (guide : Text) : Text :=
  if guide.isEmpty then [] else guide ++ [Text.newline, Text.newline]

theorem renderAll_guide (guide start rest : Text) :
    renderAll (itself "system.md" ++ [(Text.ofString "guide", .text guide)] ++ builtins) [.text start,
      .choose (.name "guide") [.output (.name "guide"), .text "\n\n"] [], .text [Text.newline],
      .text rest] = .ok (start ++ (guideShown guide ++ (Text.newline :: rest))) := by
  rw [← List.append_nil (Text.newline :: rest)]
  cases guide with
  | nil => rfl
  | cons c guide => rfl

/-- The prompt for a guide: the instructions, the guide, which is not read as a template, and the
worked example, without the white space around them. -/
theorem systemFrom_systemTemplate (guide : Text) : systemFrom systemTemplate guide =
    .ok (Text.trim (textOf instructions ++ [Text.newline] ++ (guideShown guide ++
      (Text.newline :: (Text.newline :: textOf workedExample ++ [Text.newline]))))) := by
  rw [systemFrom, render, parse_systemTemplate]
  dsimp only [bind, Except.bind]
  rw [renderAll_guide]

def unguided : Text := Text.trim (textOf instructions ++ [Text.newline] ++ (guideShown [] ++
  (Text.newline :: (Text.newline :: textOf workedExample ++ [Text.newline]))))

theorem system_none (f : Files) : system f none = .ok unguided :=
  bind_eq_ok.2 ⟨[], rfl, systemFrom_systemTemplate []⟩

theorem system_fails (f : Files) (guide : Option Path) :
    FailsWith Failure.OfFiles (system f guide) := by
  refine FailsWith.bind ?_ fun t _ => ?_
  · cases guide with
    | none => exact .ok _
    | some p => exact (Files.readText_fails f p).map _
  · rw [systemFrom_systemTemplate]
    exact .ok _

end Prompt

end Redraft
