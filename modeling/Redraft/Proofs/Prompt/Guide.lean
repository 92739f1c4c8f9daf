import Redraft.Proofs.Files.Read
import Redraft.Proofs.Prompt.System
import Redraft.Proofs.Text.Blank
import Redraft.Proofs.Text.Utf8

/-!
The guide in the system prompt. It stands between two texts that do not depend on it, and nothing in
it is read as a template: the prompt is the first text, the guide with a blank line after it, and the
second text. An empty guide leaves the two texts side by side, as does none.
-/
namespace Redraft

namespace Text

theorem trimStart_append_of_head {s : Text} {c : CodePoint} (h : s.head? = some c)
    (hc : c.isBlank = false) (t : Text) : trimStart (s ++ t) = s ++ t := by
  obtain ⟨rest, rfl⟩ := List.head?_eq_some_iff.1 h
  exact List.dropWhile_cons_of_neg (by simp [hc])

variable {glue l : Text} {ls : List Text}

theorem head?_join_cons (hl : l ≠ []) : (join glue (l :: ls)).head? = l.head? := by
  cases ls with
  | nil => rfl
  | cons next ls =>
    rw [join_cons_cons, List.append_assoc, List.head?_append_of_ne_nil _ hl]

theorem getLast?_join_concat (hl : l ≠ []) : (join glue (ls ++ [l])).getLast? = l.getLast? := by
  cases ls with
  | nil => rfl
  | cons next ls =>
    rw [join_append (List.cons_ne_nil _ _) (List.cons_ne_nil _ _), ← List.append_assoc]
    exact List.getLast?_append_of_ne_nil _ hl

end Text

namespace Prompt

open Text

def beforeGuide : Text := textOf instructions ++ [newline]

def afterGuide : Text := newline :: newline :: textOf workedExample

theorem head?_beforeGuide : beforeGuide.head? = some (.scalar 'Y') := by
  have hline : (ofString "You are SireCoder, a Sire coding assistant.").head? =
      some (.scalar 'Y') := by decide +kernel
  have hne : ofString "You are SireCoder, a Sire coding assistant." ≠ [] := by
    intro hnil
    rw [hnil] at hline
    cases hline
  rw [beforeGuide, textOf, instructions, List.map_cons, List.head?_append, head?_join_cons hne, hline]
  rfl

theorem getLast?_afterGuide : afterGuide.getLast? = some (.scalar ':') := by
  have hline : (ofString
      "to syntax details, like mandatory parenthesis, to emit valid code. Do it now:").getLast? =
      some (.scalar ':') := by decide +kernel
  have hne : ofString
      "to syntax details, like mandatory parenthesis, to emit valid code. Do it now:" ≠ [] := by
    intro hnil
    rw [hnil] at hline
    cases hline
  have hend : exampleEnd = exampleEnd.dropLast ++
      ["to syntax details, like mandatory parenthesis, to emit valid code. Do it now:"] := rfl
  have hexample : (textOf workedExample).getLast? = some (.scalar ':') := by
    rw [textOf, workedExample, hend, ← List.append_assoc, List.map_append, List.map_singleton,
      getLast?_join_concat hne, hline]
  rw [afterGuide, List.getLast?_cons_cons, List.getLast?_cons, hexample]
  rfl

/-- The white space around the prompt is that at the end of the template, whatever the guide is. -/
theorem systemFrom_eq_shown (guide : Text) :
    systemFrom systemTemplate guide = .ok (beforeGuide ++ guideShown guide ++ afterGuide) := by
  have hlast : ∀ c ∈ (beforeGuide ++ guideShown guide ++ afterGuide).getLast?, c.isBlank = false := by
    have hne : afterGuide ≠ [] := List.cons_ne_nil _ _
    rw [List.getLast?_append_of_ne_nil _ hne, getLast?_afterGuide]
    rintro c ⟨⟩
    rfl
  have hblank : trimEnd [newline] = [] := rfl
  rw [systemFrom_systemTemplate]
  refine congrArg Except.ok ?_
  calc trim (textOf instructions ++ [newline] ++ (guideShown guide ++
        (newline :: (newline :: textOf workedExample ++ [newline]))))
      = trim (beforeGuide ++ guideShown guide ++ afterGuide ++ [newline]) := by
        simp only [beforeGuide, afterGuide, List.append_assoc, List.cons_append]
    _ = trimEnd (beforeGuide ++ guideShown guide ++ afterGuide ++ [newline]) := by
        rw [trim, List.append_assoc, List.append_assoc,
          trimStart_append_of_head head?_beforeGuide rfl, ← List.append_assoc, ← List.append_assoc]
    _ = beforeGuide ++ guideShown guide ++ afterGuide := by
        rw [trimEnd_append_of_last hlast, hblank, List.append_nil]

theorem guideText_of_hasFile {f : Files} {p : Path} {bytes : Bytes} {t : Text}
    (h : f.HasFile p bytes) (ht : Utf8.decode bytes = .ok t) :
    guideText f (some p) = .ok (trim (unifyNewlines t)) := by
  rw [guideText, Files.readText_of_hasFile h, ht]
  rfl

/-- The prompt with the guide of a file is a fixed text, the guide as it was read without the white
space around it, a blank line, and another fixed text; a guide of white space alone leaves the two
texts as they are without a guide. It is so for any text that takes the place of the guide, with line
ends of every kind, tags and what opens and closes parts of a template. -/
theorem guide_inlined :
    (∀ f, system f none = .ok (beforeGuide ++ afterGuide)) ∧
    (∀ f p bytes t, f.HasFile p bytes → Utf8.decode bytes = .ok t →
      (trim (unifyNewlines t) = [] → system f (some p) = .ok (beforeGuide ++ afterGuide)) ∧
      (trim (unifyNewlines t) ≠ [] → system f (some p) =
        .ok (beforeGuide ++ trim (unifyNewlines t) ++ ofString "\n\n" ++ afterGuide))) ∧
    ∀ guide, guide ≠ [] → systemFrom systemTemplate guide =
      .ok (beforeGuide ++ guide ++ ofString "\n\n" ++ afterGuide) := by
  have hempty : systemFrom systemTemplate [] = .ok (beforeGuide ++ afterGuide) := by
    rw [systemFrom_eq_shown, guideShown, List.isEmpty_nil, if_pos rfl, List.append_nil]
  have hfull (guide : Text) (hne : guide ≠ []) : systemFrom systemTemplate guide =
      .ok (beforeGuide ++ guide ++ ofString "\n\n" ++ afterGuide) := by
    have hline : ofString "\n\n" = [newline, newline] := rfl
    rw [systemFrom_eq_shown, guideShown, if_neg (mt List.isEmpty_iff.1 hne), hline,
      ← List.append_assoc beforeGuide]
  refine ⟨fun f => bind_eq_ok.2 ⟨[], rfl, hempty⟩, fun f p bytes t hfile ht => ?_, hfull⟩
  have hguide : guideText f (some p) = .ok (trim (unifyNewlines t)) := guideText_of_hasFile hfile ht
  constructor
  · intro hnil
    exact bind_eq_ok.2 ⟨_, hguide, hnil ▸ hempty⟩
  · intro hne
    exact bind_eq_ok.2 ⟨_, hguide, hfull _ hne⟩

/-- A guide with a tag, with what opens and closes parts of a template, and with line ends of three
kinds. -/
def markedGuide : Text :=
  "\r\n\x7b\x7b guide \x7d\x7d\r\x7b% endraw %\x7d\n\x7b# a #\x7d\r\n\r<SHOW>\r\n"

def marked : Files := ⟨⟨[(["g"], .file (Utf8.encodeWith [] markedGuide) 0o644)]⟩, []⟩

theorem guide_inlined_marked :
    (∃ bytes, marked.HasFile ⟨.relative, ["g"]⟩ bytes) ∧
    system marked (some ⟨.relative, ["g"]⟩) = .ok (beforeGuide ++
      ofString "\x7b\x7b guide \x7d\x7d\n\x7b% endraw %\x7d\n\x7b# a #\x7d\n\n<SHOW>" ++
        ofString "\n\n" ++ afterGuide) := by
  have hfile : marked.HasFile ⟨.relative, ["g"]⟩ _ := ⟨rfl, _, rfl⟩
  have hdecode := Utf8.decode_encode (t := markedGuide) rfl
  have htrim : trim (unifyNewlines markedGuide) = ofString
      "\x7b\x7b guide \x7d\x7d\n\x7b% endraw %\x7d\n\x7b# a #\x7d\n\n<SHOW>" := by decide +kernel
  have hne : trim (unifyNewlines markedGuide) ≠ [] := by decide +kernel
  refine ⟨⟨_, hfile⟩, ?_⟩
  rw [← htrim]
  exact (guide_inlined.2.1 marked _ _ _ hfile hdecode).2 hne

end Prompt

end Redraft
