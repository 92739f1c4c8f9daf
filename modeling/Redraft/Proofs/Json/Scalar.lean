import Redraft.Json.Decode
import Redraft.Proofs.Failure
import Redraft.Proofs.Text.Occurrence

/-!
What a reader takes of a JSON text for one string, number or word. A string is closed by its last
quote, whatever comes behind it. A number or a word is read up to an end, and it is the same before
any other text that starts with an end.
-/
namespace Redraft.Json

variable {opening mark t u r rest part s a b : Text} {c : CodePoint} {d : Data} {n fuel : Nat}

theorem fourHex?_eq_some : fourHex? t = some (n, r) ↔
    ∃ digits, digits.length = 4 ∧ Text.digits? 16 digits = some n ∧ t = digits ++ r ∧ r ≠ [] := by
  rw [fourHex?]
  constructor
  · intro h
    split_ifs at h with hlen
    obtain ⟨m, hm, hr⟩ := Option.map_eq_some_iff.1 h
    cases hr
    refine ⟨t.take 4, by simp; omega, hm, (List.take_append_drop 4 t).symm, fun hnil => ?_⟩
    have := List.drop_eq_nil_iff.1 hnil
    omega
  · rintro ⟨digits, hlen, hn, rfl, hr⟩
    have hlong : 4 < (digits ++ r).length := by
      have := List.length_pos_iff.2 hr
      rw [List.length_append]
      omega
    rw [if_pos hlong, ← hlen, List.take_left, hn, List.drop_left]
    rfl

def unit (n : Nat) : CodePoint := (CodePoint.ofNat? n).getD default

def IsHigh (n : Nat) : Prop := 0xD800 ≤ n ∧ n < 0xDC00

/-- How an escape by number is read: as one code point with the escape behind it, as the first half
of a pair that has no second half there, or by itself. -/
inductive ReadsUnicode : Text → CodePoint → Text → Prop
  | pair {t more after : Text} {n m : Nat} {c : CodePoint}
      (high : fourHex? t = some (n, .scalar '\\' :: .scalar 'u' :: more)) (isHigh : IsHigh n)
      (low : fourHex? more = some (m, after)) (paired : Text.pair? (unit n) (unit m) = some c) :
      ReadsUnicode t c after
  | unpaired {t more after : Text} {n m : Nat}
      (high : fourHex? t = some (n, .scalar '\\' :: .scalar 'u' :: more)) (isHigh : IsHigh n)
      (low : fourHex? more = some (m, after)) (paired : Text.pair? (unit n) (unit m) = none) :
      ReadsUnicode t (unit n) (.scalar '\\' :: .scalar 'u' :: more)
  | single {t rest : Text} {n : Nat} (digits : fourHex? t = some (n, rest))
      (alone : ∀ more, rest = .scalar '\\' :: .scalar 'u' :: more → IsHigh n → ¬ 4 < more.length) :
      ReadsUnicode t (unit n) rest

theorem lt_length_of_fourHex? (h : fourHex? t = some (n, r)) : 4 < t.length := by
  obtain ⟨digits, hlen, -, rfl, hr⟩ := fourHex?_eq_some.1 h
  have := List.length_pos_iff.2 hr
  rw [List.length_append]
  omega

theorem readUnicode_of_escape {more : Text}
    (h : fourHex? t = some (n, .scalar '\\' :: .scalar 'u' :: more)) : readUnicode mark t =
      if 0xD800 ≤ n ∧ n < 0xDC00 ∧ 4 < more.length then
        match fourHex? more with
        | none => .error (.malformed .badUnicodeEscape (.scalar 'u' :: more))
        | some (m, after) =>
          match Text.pair? (unit n) (unit m) with
          | some c => .ok (c, after)
          | none => .ok (unit n, .scalar '\\' :: .scalar 'u' :: more)
      else .ok (unit n, .scalar '\\' :: .scalar 'u' :: more) := by
  unfold readUnicode
  rw [h]
  rfl

theorem readUnicode_eq_ok : readUnicode mark t = .ok (c, r) ↔ ReadsUnicode t c r := by
  constructor
  · intro h
    unfold readUnicode at h
    split at h
    · cases h
    · next n rest hdigits =>
      dsimp only at h
      split at h
      · next more =>
        split_ifs at h with hcond
        · split at h
          · cases h
          · next m after hlow =>
            split at h
            · next c' hpair =>
              cases h
              exact .pair hdigits ⟨hcond.1, hcond.2.1⟩ hlow hpair
            · next hpair =>
              cases h
              exact .unpaired hdigits ⟨hcond.1, hcond.2.1⟩ hlow hpair
        · cases h
          refine .single hdigits fun more' hmore hhigh hlong => hcond ⟨hhigh.1, hhigh.2, ?_⟩
          cases hmore
          exact hlong
      · next hother =>
        cases h
        exact .single hdigits fun more hmore => absurd hmore (hother more)
  · intro h
    cases h with
    | pair high isHigh low paired =>
      have hcond := And.intro isHigh.1 (And.intro isHigh.2 (lt_length_of_fourHex? low))
      rw [readUnicode_of_escape high, if_pos hcond, low]
      dsimp only
      rw [paired]
    | unpaired high isHigh low paired =>
      have hcond := And.intro isHigh.1 (And.intro isHigh.2 (lt_length_of_fourHex? low))
      rw [readUnicode_of_escape high, if_pos hcond, low]
      dsimp only
      rw [paired]
    | single digits alone =>
      unfold readUnicode
      rw [digits]
      dsimp only
      split
      · next more => rw [if_neg fun hcond => alone more rfl ⟨hcond.1, hcond.2.1⟩ hcond.2.2, unit]
      · rfl

/-- How the rest of a string is read. -/
inductive ReadsString (opening : Text) (fuel : Nat) : Text → Text → Text → Prop
  | quote {rest : Text} : ReadsString opening fuel (.scalar '"' :: rest) [] rest
  | unicode {digits r s rest : Text} {c : CodePoint} (escape : ReadsUnicode digits c r)
      (more : readString opening fuel r = .ok (s, rest)) :
      ReadsString opening fuel (.scalar '\\' :: .scalar 'u' :: digits) (c :: s) rest
  | escape {e c : CodePoint} {t s rest : Text} (known : simpleEscape? e = some c)
      (more : readString opening fuel t = .ok (s, rest)) :
      ReadsString opening fuel (.scalar '\\' :: e :: t) (c :: s) rest
  | plain {c : CodePoint} {t s rest : Text} (noQuote : c ≠ .scalar '"') (noEscape : c ≠ .scalar '\\')
      (noControl : ¬ c.value ≤ 0x1F) (more : readString opening fuel t = .ok (s, rest)) :
      ReadsString opening fuel (c :: t) (c :: s) rest

theorem readString_eq_ok :
    readString opening (fuel + 1) t = .ok (s, rest) ↔ ReadsString opening fuel t s rest := by
  constructor
  · intro h
    cases t with
    | nil => cases h
    | cons c t =>
      unfold readString at h
      split_ifs at h with hquote hback hcontrol
      · cases h
        rw [hquote]
        exact .quote
      · subst hback
        split at h
        · cases h
        · next digits =>
          obtain ⟨⟨c, r⟩, hc, h⟩ := bind_eq_ok.1 h
          obtain ⟨⟨s', rest'⟩, hs, h⟩ := bind_eq_ok.1 h
          cases h
          exact .unicode (readUnicode_eq_ok.1 hc) hs
        · next e after hu =>
          split at h
          · cases h
          · next c hc =>
            obtain ⟨⟨s', rest'⟩, hs, h⟩ := bind_eq_ok.1 h
            cases h
            exact .escape hc hs
      · obtain ⟨⟨s', rest'⟩, hs, h⟩ := bind_eq_ok.1 h
        cases h
        exact .plain hquote hback hcontrol hs
  · intro h
    cases h with
    | quote => exact if_pos rfl
    | unicode escape more =>
      exact bind_eq_ok.2 ⟨_, readUnicode_eq_ok.2 escape, bind_eq_ok.2 ⟨_, more, rfl⟩⟩
    | @escape e c t s rest known more =>
      have hu : e ≠ .scalar 'u' := by
        rintro rfl
        cases known
      rw [readString.eq_5 _ _ _ _ _ hu, if_neg (by decide), if_pos rfl, known]
      exact bind_eq_ok.2 ⟨_, more, rfl⟩
    | plain noQuote noEscape noControl more =>
      unfold readString
      dsimp only
      rw [if_neg noQuote, if_neg noEscape, if_neg noControl]
      exact bind_eq_ok.2 ⟨_, more, rfl⟩

/-- A part of a text that is the rest of a string, whatever follows it. -/
def Closes (part s : Text) : Prop := ∀ opening fuel rest, part.length ≤ fuel →
  readString opening fuel (part ++ rest) = .ok (s, rest)

theorem Closes.ne_nil (h : Closes part s) : part ≠ [] := by
  rintro rfl
  cases h [] 0 [] (Nat.le_refl 0)

theorem Closes.of_reads (hpart : part ≠ []) (h : ∀ opening fuel rest, part.length ≤ fuel + 1 →
    ReadsString opening fuel (part ++ rest) s rest) : Closes part s := by
  intro opening fuel rest hfuel
  have hpos := List.length_pos_iff.2 hpart
  obtain ⟨fuel, rfl⟩ := Nat.exists_eq_add_one_of_ne_zero (n := fuel) (by omega)
  exact readString_eq_ok.2 (h opening fuel rest hfuel)

theorem Closes.unicode (h : Closes part s) (heq : part ++ rest = .scalar '\\' :: .scalar 'u' :: u) :
    ∃ more, part = .scalar '\\' :: .scalar 'u' :: more ∧ u = more ++ rest ∧ 4 < more.length := by
  have hread : ReadsString [] part.length part s [] := by
    have := h [] (part.length + 1) [] (Nat.le_succ _)
    rwa [List.append_nil, readString_eq_ok] at this
  cases hread with
  | quote => cases heq
  | unicode escape more =>
    cases heq
    refine ⟨_, rfl, rfl, ?_⟩
    cases escape with
    | pair high => exact lt_length_of_fourHex? high
    | unpaired high => exact lt_length_of_fourHex? high
    | single digits => exact lt_length_of_fourHex? digits
  | escape known more =>
    cases heq
    cases known
  | plain noQuote noEscape noControl more => exact absurd (List.cons.inj heq).1 noEscape

/-- An escape by number is the same before any rest of the string and whatever follows that. -/
theorem exists_part_of_readsUnicode (h : ReadsUnicode t c (part ++ rest)) (hpart : Closes part s) :
    ∃ front, front ≠ [] ∧ t = front ++ (part ++ rest) ∧
      ∀ rest', ReadsUnicode (front ++ (part ++ rest')) c (part ++ rest') := by
  have hne (rest' : Text) : part ++ rest' ≠ [] := fun h => hpart.ne_nil (List.append_eq_nil_iff.1 h).1
  generalize hbehind : part ++ rest = behind at h
  cases h with
  | pair high isHigh low paired =>
    obtain ⟨digits, hlen, hn, rfl, -⟩ := fourHex?_eq_some.1 high
    obtain ⟨digits', hlen', hm, rfl, -⟩ := fourHex?_eq_some.1 low
    subst hbehind
    refine ⟨digits ++ .scalar '\\' :: .scalar 'u' :: digits', by simp, by simp, fun rest' => ?_⟩
    have hlow : fourHex? (digits' ++ (part ++ rest')) = some (_, part ++ rest') :=
      fourHex?_eq_some.2 ⟨digits', hlen', hm, rfl, hne rest'⟩
    exact .pair (fourHex?_eq_some.2 ⟨digits, hlen, hn, by simp, by simp⟩) isHigh hlow paired
  | unpaired high isHigh low paired =>
    obtain ⟨digits, hlen, hn, rfl, -⟩ := fourHex?_eq_some.1 high
    obtain ⟨more, rfl, rfl, hlong⟩ := hpart.unicode hbehind
    obtain ⟨digits', hlen', hm, heq, -⟩ := fourHex?_eq_some.1 low
    -- the second four digits stand in front of the last quote, so that they are there before any rest
    obtain ⟨after, rfl⟩ : digits' <+: more := by
      have hprefix : digits' <+: more ++ rest := ⟨_, heq.symm⟩
      exact List.prefix_of_prefix_length_le hprefix (List.prefix_append more rest) (by omega)
    have hafter : after ≠ [] := by
      rintro rfl
      simp only [List.append_nil] at hlong
      omega
    refine ⟨digits, List.ne_nil_of_length_pos (by omega), rfl, fun rest' => ?_⟩
    have hlow : fourHex? (digits' ++ after ++ rest') = some (_, after ++ rest') :=
      fourHex?_eq_some.2 ⟨digits', hlen', hm, List.append_assoc _ _ _, by simp [hafter]⟩
    exact .unpaired (fourHex?_eq_some.2 ⟨digits, hlen, hn, rfl, List.cons_ne_nil _ _⟩) isHigh hlow
      paired
  | single digits alone =>
    obtain ⟨four, hlen, hn, rfl, -⟩ := fourHex?_eq_some.1 digits
    subst hbehind
    refine ⟨four, List.ne_nil_of_length_pos (by omega), rfl, fun rest' => ?_⟩
    refine .single (fourHex?_eq_some.2 ⟨four, hlen, hn, rfl, hne rest'⟩) fun u hu hhigh => ?_
    obtain ⟨more, rfl, -, hlong⟩ := hpart.unicode hu
    refine absurd ?_ (alone (more ++ rest) rfl hhigh)
    rw [List.length_append]
    omega

/-- A string is closed inside the part that is taken for it. -/
theorem exists_part_of_readString (h : readString opening fuel t = .ok (s, rest)) :
    ∃ part, t = part ++ rest ∧ Closes part s := by
  induction fuel generalizing t s with
  | zero => cases h
  | succ fuel ih =>
    cases readString_eq_ok.1 h with
    | quote =>
      exact ⟨[.scalar '"'], rfl, .of_reads (List.cons_ne_nil _ _) fun _ _ _ _ => .quote⟩
    | unicode escape more =>
      obtain ⟨part, rfl, hpart⟩ := ih more
      obtain ⟨front, hfront, rfl, hreads⟩ := exists_part_of_readsUnicode escape hpart
      have hpos := List.length_pos_iff.2 hfront
      refine ⟨.scalar '\\' :: .scalar 'u' :: (front ++ part), by simp,
        .of_reads (List.cons_ne_nil _ _) fun opening fuel rest hfuel => ?_⟩
      simp only [List.length_cons, List.length_append] at hfuel
      simp only [List.cons_append, List.append_assoc]
      exact .unicode (hreads rest) (hpart opening fuel rest (by omega))
    | escape known more =>
      obtain ⟨part, rfl, hpart⟩ := ih more
      refine ⟨.scalar '\\' :: _ :: part, rfl,
        .of_reads (List.cons_ne_nil _ _) fun opening fuel rest hfuel => ?_⟩
      simp only [List.length_cons] at hfuel
      exact .escape known (hpart opening fuel rest (by omega))
    | plain noQuote noEscape noControl more =>
      obtain ⟨part, rfl, hpart⟩ := ih more
      refine ⟨_ :: part, rfl, .of_reads (List.cons_ne_nil _ _) fun opening fuel rest hfuel => ?_⟩
      simp only [List.length_cons] at hfuel
      exact .plain noQuote noEscape noControl (hpart opening fuel rest (by omega))

/-! Numbers and words, with an end behind them. -/

/-- What ends a number: white space, a comma, or a bracket that closes. -/
def isEnd (c : CodePoint) : Bool :=
  isSpace c || c = .scalar ',' || c = .scalar ']' || c = .scalar '}'

/-- Whether there is nothing at the start of a text that goes on with a number before it. -/
def Ended (t : Text) : Prop := ∀ c ∈ t.head?, isEnd c = true

theorem isEnd_iff : isEnd c = true ↔ c ∈ [.scalar ' ', .scalar '\t', .scalar '\n', .scalar '\r',
    .scalar ',', .scalar ']', .scalar '}'] := by
  simp [isEnd, isSpace, or_assoc]

/-- A text that starts with no end starts so before more text, too, and one that does not start with
it does not do so before a text that starts with an end. -/
theorem starts_or_not {x : CodePoint} (hb : Ended b) (hx : isEnd x = false) (a : Text) :
    (∃ u, a = x :: u) ∨ ∀ r, a ≠ x :: r ∧ a ++ b ≠ x :: r := by
  cases a with
  | nil =>
    refine .inr fun r => ⟨(List.cons_ne_nil x r).symm, fun hr => ?_⟩
    have hend := hb x (congrArg List.head? hr)
    cases hx.symm.trans hend
  | cons y a =>
    by_cases hy : y = x
    · exact .inl ⟨a, by rw [hy]⟩
    · exact .inr fun r => ⟨fun h => hy (List.cons.inj h).1, fun h => hy (List.cons.inj h).1⟩

theorem isDigit_of_isEnd (hc : isEnd c = true) : isDigit c = false := by
  have hall : ∀ x ∈ [.scalar ' ', .scalar '\t', .scalar '\n', .scalar '\r', .scalar ',', .scalar ']',
      .scalar '}'], isDigit x = false := by decide
  exact hall c (isEnd_iff.1 hc)

theorem takeWhile_append_ended (hb : Ended b) : (a ++ b).takeWhile isDigit = a.takeWhile isDigit := by
  induction a with
  | nil =>
    cases b with
    | nil => rfl
    | cons c b => exact List.takeWhile_cons_of_neg (by simp [isDigit_of_isEnd (hb c rfl)])
  | cons x a ih =>
    rw [List.cons_append, List.takeWhile_cons, List.takeWhile_cons, ih]

theorem dropWhile_append_ended (hb : Ended b) :
    (a ++ b).dropWhile isDigit = a.dropWhile isDigit ++ b := by
  have h := List.takeWhile_append_dropWhile (p := isDigit) (l := a ++ b)
  rw [takeWhile_append_ended hb] at h
  conv_rhs at h => rw [← List.takeWhile_append_dropWhile (p := isDigit) (l := a), List.append_assoc]
  exact List.append_cancel_left h

theorem takeFraction_point (t : Text) : takeFraction (.scalar '.' :: t) =
    if (t.takeWhile isDigit).isEmpty then (none, .scalar '.' :: t)
    else (some (t.takeWhile isDigit), t.dropWhile isDigit) := rfl

theorem takeFraction_of_ne (h : ∀ r, t ≠ .scalar '.' :: r) : takeFraction t = (none, t) := by
  unfold takeFraction
  split
  · next r => exact absurd rfl (h r)
  · rfl

theorem takeFraction_append (hb : Ended b) (a : Text) :
    takeFraction (a ++ b) = ((takeFraction a).1, (takeFraction a).2 ++ b) := by
  rcases starts_or_not hb (x := .scalar '.') rfl a with ⟨u, rfl⟩ | hnone
  · rw [List.cons_append, takeFraction_point, takeFraction_point, takeWhile_append_ended hb,
      dropWhile_append_ended hb]
    split_ifs <;> rfl
  · rw [takeFraction_of_ne fun r => (hnone r).2, takeFraction_of_ne fun r => (hnone r).1]

def exponentOf (negative : Bool) (whole digits : Text) : Option Int × Text :=
  match Text.digits? 10 (digits.takeWhile isDigit) with
  | none => (none, whole)
  | some n => (some (if negative then -(n : Int) else n), digits.dropWhile isDigit)

theorem exponentOf_append (hb : Ended b) (negative : Bool) (whole digits : Text) :
    exponentOf negative (whole ++ b) (digits ++ b) =
      ((exponentOf negative whole digits).1, (exponentOf negative whole digits).2 ++ b) := by
  rw [exponentOf, exponentOf, takeWhile_append_ended hb, dropWhile_append_ended hb]
  cases Text.digits? 10 (digits.takeWhile isDigit) <;> rfl

def exponentSign : Text → Bool × Text
  | .scalar '-' :: rest => (true, rest)
  | .scalar '+' :: rest => (false, rest)
  | t => (false, t)

theorem exponentSign_of_ne (hminus : ∀ r, t ≠ .scalar '-' :: r) (hplus : ∀ r, t ≠ .scalar '+' :: r) :
    exponentSign t = (false, t) := by
  unfold exponentSign
  split
  · next r => exact absurd rfl (hminus r)
  · next r => exact absurd rfl (hplus r)
  · rfl

theorem exponentSign_append (hb : Ended b) (a : Text) :
    exponentSign (a ++ b) = ((exponentSign a).1, (exponentSign a).2 ++ b) := by
  rcases starts_or_not hb (x := .scalar '-') rfl a with ⟨u, rfl⟩ | hminus
  · rfl
  · rcases starts_or_not hb (x := .scalar '+') rfl a with ⟨u, rfl⟩ | hplus
    · rfl
    · rw [exponentSign_of_ne (fun r => (hminus r).2) fun r => (hplus r).2,
        exponentSign_of_ne (fun r => (hminus r).1) fun r => (hplus r).1]

theorem suffix_exponentSign (t : Text) : (exponentSign t).2 <:+ t := by
  unfold exponentSign
  split
  · exact List.suffix_cons _ _
  · exact List.suffix_cons _ _
  · exact List.suffix_rfl

theorem takeExponent_mark {e : Char} (he : e = 'e' ∨ e = 'E') (t : Text) :
    takeExponent (.scalar e :: t) =
      exponentOf (exponentSign t).1 (.scalar e :: t) (exponentSign t).2 := by
  unfold takeExponent
  dsimp only
  rw [if_pos he]
  rfl

theorem takeExponent_none (hs : ∀ r, t ≠ .scalar 'e' :: r) (hl : ∀ r, t ≠ .scalar 'E' :: r) :
    takeExponent t = (none, t) := by
  unfold takeExponent
  split
  · next e r =>
    refine if_neg fun he => ?_
    rcases he with rfl | rfl
    · exact hs r rfl
    · exact hl r rfl
  · rfl

theorem takeExponent_append (hb : Ended b) (a : Text) :
    takeExponent (a ++ b) = ((takeExponent a).1, (takeExponent a).2 ++ b) := by
  have hmark {e : Char} (he : e = 'e' ∨ e = 'E') (u : Text) :
      takeExponent (.scalar e :: u ++ b) =
        ((takeExponent (.scalar e :: u)).1, (takeExponent (.scalar e :: u)).2 ++ b) := by
    rw [List.cons_append, takeExponent_mark he, takeExponent_mark he, exponentSign_append hb]
    exact exponentOf_append hb _ (.scalar e :: u) _
  rcases starts_or_not hb (x := .scalar 'e') rfl a with ⟨u, rfl⟩ | hsmall
  · exact hmark (.inl rfl) u
  · rcases starts_or_not hb (x := .scalar 'E') rfl a with ⟨u, rfl⟩ | hlarge
    · exact hmark (.inr rfl) u
    · rw [takeExponent_none (fun r => (hsmall r).2) fun r => (hlarge r).2,
        takeExponent_none (fun r => (hsmall r).1) fun r => (hlarge r).1]

def wholeDigits (t : Text) : Text :=
  match t with
  | .scalar '0' :: _ => t.take 1
  | _ => t.takeWhile isDigit

theorem wholeDigits_of_ne (h : ∀ r, t ≠ .scalar '0' :: r) : wholeDigits t = t.takeWhile isDigit := by
  unfold wholeDigits
  split
  · next r => exact absurd rfl (h r)
  · rfl

theorem wholeDigits_append (hb : Ended b) (a : Text) : wholeDigits (a ++ b) = wholeDigits a := by
  rcases starts_or_not hb (x := .scalar '0') rfl a with ⟨u, rfl⟩ | hnone
  · rfl
  · rw [wholeDigits_of_ne fun r => (hnone r).2, wholeDigits_of_ne fun r => (hnone r).1,
      takeWhile_append_ended hb]

theorem wholeDigits_isPrefix (t : Text) : wholeDigits t <+: t := by
  unfold wholeDigits
  split
  · exact List.take_prefix _ _
  · exact List.takeWhile_prefix _

def readUnsigned (negative : Bool) (start t : Text) : Except Stop (Data × Text) :=
  let whole := wholeDigits t
  if whole.isEmpty then .error (.malformed .expectingValue start)
  else
    let (fraction, rest) := takeFraction (t.drop whole.length)
    let (exponent, rest) := takeExponent rest
    if fraction.isSome ∨ exponent.isSome then
      .ok (.float (Decimal.readParts negative whole (fraction.getD []) (exponent.getD 0)), rest)
    else if longestInteger < whole.length then .error (.longInteger whole.length)
    else
      let n : Nat := (Text.digits? 10 whole).getD 0
      .ok (.int (if negative then -(n : Int) else n), rest)

/-- What a reader gives, with more text behind the rest. -/
def followedBy (b : Text) (x : Data × Text) : Data × Text := (x.1, x.2 ++ b)

theorem readUnsigned_append (hb : Ended b) (negative : Bool) (start start' a : Text) :
    (readUnsigned negative start (a ++ b)).toOption =
      (readUnsigned negative start' a).toOption.map (followedBy b) := by
  have hlen : (wholeDigits a).length ≤ a.length := (wholeDigits_isPrefix a).length_le
  unfold readUnsigned
  dsimp only
  rw [wholeDigits_append hb, List.drop_append_of_le_length hlen, takeFraction_append hb]
  dsimp only
  rw [takeExponent_append hb]
  dsimp only
  split_ifs <;> rfl

def numberSign : Text → Bool × Text
  | .scalar '-' :: rest => (true, rest)
  | t => (false, t)

theorem numberSign_of_ne (h : ∀ r, t ≠ .scalar '-' :: r) : numberSign t = (false, t) := by
  unfold numberSign
  split
  · next r => exact absurd rfl (h r)
  · rfl

theorem numberSign_append (hb : Ended b) (a : Text) :
    numberSign (a ++ b) = ((numberSign a).1, (numberSign a).2 ++ b) := by
  rcases starts_or_not hb (x := .scalar '-') rfl a with ⟨u, rfl⟩ | hnone
  · rfl
  · rw [numberSign_of_ne fun r => (hnone r).2, numberSign_of_ne fun r => (hnone r).1]

theorem suffix_numberSign (t : Text) : (numberSign t).2 <:+ t := by
  unfold numberSign
  split
  · exact List.suffix_cons _ _
  · exact List.suffix_rfl

theorem readNumber_eq (t : Text) :
    readNumber t = readUnsigned (numberSign t).1 t (numberSign t).2 := rfl

theorem readNumber_append (hb : Ended b) (a : Text) :
    (readNumber (a ++ b)).toOption = (readNumber a).toOption.map (followedBy b) := by
  rw [readNumber_eq, readNumber_eq, numberSign_append hb]
  exact readUnsigned_append hb _ _ _ _

theorem dropStart?_append_ended {word : Text} (hword : ∀ c ∈ word, isEnd c = false) (hb : Ended b)
    (a : Text) : Text.dropStart? word (a ++ b) = (Text.dropStart? word a).map (· ++ b) := by
  cases hdrop : Text.dropStart? word a with
  | some r =>
    obtain rfl := Text.dropStart?_eq_some.1 hdrop
    exact Text.dropStart?_eq_some.2 (List.append_assoc _ _ _)
  | none =>
    rw [Option.map_none, Text.dropStart?_eq_none]
    intro hp
    rcases List.prefix_or_prefix_of_prefix hp (List.prefix_append a b) with hin | ⟨e, rfl⟩
    · exact Text.dropStart?_eq_none.1 hdrop hin
    · -- the rest of the word would start as what comes behind `a`, with an end
      cases e with
      | nil => exact Text.dropStart?_eq_none.1 hdrop (by simp)
      | cons x e =>
        obtain ⟨r, rfl⟩ : x :: e <+: b := (List.prefix_append_right_inj a).1 hp
        have hno := hword x (List.mem_append_right a List.mem_cons_self)
        cases hno.symm.trans (hb x rfl)

theorem findSome?_append_ended (hb : Ended b) (a : Text) {choices : List (Text × Data)}
    (hends : ∀ w ∈ choices, ∀ c ∈ w.1, isEnd c = false) :
    (choices.findSome? fun w => (Text.dropStart? w.1 (a ++ b)).map (w.2, ·)) =
      (choices.findSome? fun w => (Text.dropStart? w.1 a).map (w.2, ·)).map (followedBy b) := by
  induction choices with
  | nil => rfl
  | cons w choices ih =>
    obtain ⟨hw, hends⟩ := List.forall_mem_cons.1 hends
    rw [List.findSome?_cons, List.findSome?_cons, dropStart?_append_ended hw hb, ih hends]
    cases Text.dropStart? w.1 a <;> rfl

theorem readScalar_append (hb : Ended b) (a : Text) :
    (readScalar (a ++ b)).toOption = (readScalar a).toOption.map (followedBy b) := by
  have hends : ∀ w ∈ words, ∀ c ∈ w.1, isEnd c = false := by
    simp only [words, List.forall_mem_cons, List.not_mem_nil, false_imp_iff, implies_true, and_true]
    decide +kernel
  have hfind := findSome?_append_ended hb a hends
  rw [readScalar, readScalar, hfind]
  cases words.findSome? fun w => (Text.dropStart? w.1 a).map (w.2, ·) with
  | some found => rfl
  | none => exact readNumber_append hb a

/-! What is left behind a number or a word is the end of the text. -/

theorem suffix_takeFraction (t : Text) : (takeFraction t).2 <:+ t := by
  unfold takeFraction
  split
  · dsimp only
    split_ifs
    · exact List.suffix_rfl
    · exact (List.dropWhile_suffix _).trans (List.suffix_cons _ _)
  · exact List.suffix_rfl

theorem suffix_takeExponent (t : Text) : (takeExponent t).2 <:+ t := by
  have hmark {e : Char} (he : e = 'e' ∨ e = 'E') (u : Text) :
      (takeExponent (.scalar e :: u)).2 <:+ .scalar e :: u := by
    rw [takeExponent_mark he, exponentOf]
    split
    · exact List.suffix_rfl
    · exact ((List.dropWhile_suffix _).trans (suffix_exponentSign u)).trans (List.suffix_cons _ _)
  by_cases hsmall : ∃ u, t = .scalar 'e' :: u
  · obtain ⟨u, rfl⟩ := hsmall
    exact hmark (.inl rfl) u
  · by_cases hlarge : ∃ u, t = .scalar 'E' :: u
    · obtain ⟨u, rfl⟩ := hlarge
      exact hmark (.inr rfl) u
    · have hnone := takeExponent_none (not_exists.1 hsmall) (not_exists.1 hlarge)
      exact ⟨[], congrArg Prod.snd hnone⟩

theorem suffix_of_readNumber (h : readNumber t = .ok (d, rest)) : rest <:+ t := by
  have hparts := (suffix_takeExponent _).trans ((suffix_takeFraction _).trans
    ((List.drop_suffix (wholeDigits (numberSign t).2).length _).trans (suffix_numberSign t)))
  rw [readNumber_eq, readUnsigned] at h
  dsimp only at h
  split_ifs at h
  · cases h
    exact hparts
  · cases h
    exact hparts
  · cases h
    exact hparts

theorem suffix_of_readScalar (h : readScalar t = .ok (d, rest)) : rest <:+ t := by
  rw [readScalar] at h
  split at h
  · next found hfound =>
    cases h
    obtain ⟨w, -, hdrop⟩ := List.exists_of_findSome?_eq_some hfound
    obtain ⟨r, hr, hrest⟩ := Option.map_eq_some_iff.1 hdrop
    cases hrest
    exact ⟨_, (Text.dropStart?_eq_some.1 hr).symm⟩
  · exact suffix_of_readNumber h

/-- A number or a word with an end behind it is the same before every other end. -/
theorem exists_part_of_readScalar (h : readScalar t = .ok (d, rest)) (hrest : Ended rest) :
    ∃ part, part ≠ [] ∧ t = part ++ rest ∧
      ∀ rest', Ended rest' → readScalar (part ++ rest') = .ok (d, rest') := by
  obtain ⟨part, rfl⟩ := suffix_of_readScalar h
  have hread := toOption_eq_some.2 h
  rw [readScalar_append hrest] at hread
  obtain ⟨⟨d', r⟩, hpart, hfollowed⟩ := Option.map_eq_some_iff.1 hread
  obtain ⟨rfl, hr⟩ := Prod.mk.inj hfollowed
  obtain rfl := List.append_left_eq_self.1 hr
  refine ⟨part, ?_, rfl, fun rest' hrest' => ?_⟩
  · rintro rfl
    cases toOption_eq_some.1 hpart
  · rw [← toOption_eq_some, readScalar_append hrest', hpart]
    rfl

end Redraft.Json
