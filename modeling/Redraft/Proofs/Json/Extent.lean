import Redraft.Proofs.Json.Scalar
import Redraft.Proofs.Text.Blank

/-!
What a reader takes of a JSON text for a value. It takes a part from the start, looks at nothing behind
it but where a number ends, and needs no more fuel than that part is long: the same part is taken
before every other end. So an object is decoded to the same with and without white space around it.
-/
namespace Redraft.Json

variable {t u r rest part name : Text} {c : CodePoint} {d value : Data} {fuel room : Nat}
  {items : List Data} {fields found : List (Data × Data)}

/-! White space between the parts of a value. -/

/-- What starts behind skipped white space starts there with other text behind it, too. -/
theorem exists_skipped (h : skipSpace t = c :: r) : ∃ space, t = space ++ c :: r ∧
    (∀ x ∈ space, isSpace x = true) ∧ ∀ u, skipSpace (space ++ c :: u) = c :: u := by
  have hspace : ∀ x ∈ t.takeWhile isSpace, isSpace x = true := fun x hx => List.mem_takeWhile_imp hx
  have hc : isSpace c = false := by
    have hhead := List.head?_dropWhile_not isSpace t
    rw [show t.dropWhile isSpace = c :: r from h] at hhead
    simpa using hhead
  refine ⟨t.takeWhile isSpace, ?_, hspace, fun u => ?_⟩
  · rw [← h, skipSpace, List.takeWhile_append_dropWhile]
  · rw [skipSpace, List.dropWhile_append_of_pos hspace]
    exact List.dropWhile_cons_of_neg (by simp [hc])

theorem exists_skipped_part (hpart : part ≠ []) (h : skipSpace t = part ++ r) :
    ∃ space, t = space ++ (part ++ r) ∧ ∀ u, skipSpace (space ++ (part ++ u)) = part ++ u := by
  obtain ⟨c, part, rfl⟩ := List.exists_cons_of_ne_nil hpart
  obtain ⟨space, ht, -, hskip⟩ := exists_skipped h
  exact ⟨space, ht, fun u => hskip (part ++ u)⟩

theorem append_ne_cons (hpart : part ≠ []) (h : ∀ u, part ++ rest ≠ c :: u) (rest' u : Text) :
    part ++ rest' ≠ c :: u := by
  obtain ⟨x, part, rfl⟩ := List.exists_cons_of_ne_nil hpart
  intro hu
  exact h (part ++ rest) (by rw [List.cons_append, (List.cons.inj hu).1])

theorem ended_of_space {space : Text} (hspace : ∀ x ∈ space, isSpace x = true) (hr : Ended r) :
    Ended (space ++ r) := by
  cases space with
  | nil => exact hr
  | cons x space =>
    rintro y ⟨⟩
    rw [isEnd, hspace x List.mem_cons_self]
    rfl

theorem ended_nil : Ended [] := by
  rintro c ⟨⟩

theorem ended_cons (hc : isEnd c = true) (t : Text) : Ended (c :: t) := by
  rintro x ⟨⟩
  exact hc

/-! How a value, the items of an array and the fields of an object are read. -/

/-- A value as it is read, by what it starts with: each kind of value that its reader accepts. -/
inductive ReadsValue (fuel : Nat) : Nat → Text → Data → Text → Prop
  | text {room : Nat} {t s rest : Text}
      (closes : readString (.scalar '"' :: t) (t.length + 1) t = .ok (s, rest)) :
      ReadsValue fuel room (.scalar '"' :: t) (.text s) rest
  | noItems {room : Nat} {t rest : Text} (closes : skipSpace t = .scalar ']' :: rest) :
      ReadsValue fuel (room + 1) (.scalar '[' :: t) (.list []) rest
  | list {room : Nat} {t rest : Text} {items : List Data}
      (filled : ∀ r, skipSpace t ≠ .scalar ']' :: r)
      (more : readItems fuel room (skipSpace t) = .ok (items, rest)) :
      ReadsValue fuel (room + 1) (.scalar '[' :: t) (.list items) rest
  | noFields {room : Nat} {t rest : Text} (closes : skipSpace t = .scalar '}' :: rest) :
      ReadsValue fuel (room + 1) (.scalar '{' :: t) (.map []) rest
  | map {room : Nat} {t rest : Text} {fields : List (Data × Data)}
      (filled : ∀ r, skipSpace t ≠ .scalar '}' :: r)
      (more : readFields fuel room [] (skipSpace t) = .ok (fields, rest)) :
      ReadsValue fuel (room + 1) (.scalar '{' :: t) (.map fields) rest
  | scalar {room : Nat} {t rest : Text} {d : Data}
      (opensNone : ∀ r, t ≠ .scalar '"' :: r ∧ t ≠ .scalar '[' :: r ∧ t ≠ .scalar '{' :: r)
      (read : readScalar t = .ok (d, rest)) : ReadsValue fuel room t d rest

theorem readValue_array (fuel room : Nat) (t : Text) :
    readValue (fuel + 1) (room + 1) (.scalar '[' :: t) = match skipSpace t with
      | .scalar ']' :: rest => .ok (.list [], rest)
      | rest => (readItems fuel room rest).map fun (items, r) => (.list items, r) := by
  rw [readValue.eq_def]
  rfl

theorem readValue_object (fuel room : Nat) (t : Text) :
    readValue (fuel + 1) (room + 1) (.scalar '{' :: t) = match skipSpace t with
      | .scalar '}' :: rest => .ok (.map [], rest)
      | rest => (readFields fuel room [] rest).map fun (fields, r) => (.map fields, r) := by
  rw [readValue.eq_def]
  rfl

theorem readValue_scalar
    (h : ∀ r, t ≠ .scalar '"' :: r ∧ t ≠ .scalar '[' :: r ∧ t ≠ .scalar '{' :: r) :
    readValue (fuel + 1) room t = readScalar t := by
  rw [readValue.eq_def]
  dsimp only
  split
  · exact absurd rfl (h _).1
  · exact absurd rfl (h _).2.1
  · exact absurd rfl (h _).2.2
  · exact absurd rfl (h _).2.1
  · exact absurd rfl (h _).2.2
  · rfl

theorem readValue_eq_ok :
    readValue (fuel + 1) room t = .ok (d, rest) ↔ ReadsValue fuel room t d rest := by
  constructor
  · intro h
    by_cases hopens : ∀ r, t ≠ .scalar '"' :: r ∧ t ≠ .scalar '[' :: r ∧ t ≠ .scalar '{' :: r
    · rw [readValue_scalar hopens] at h
      exact .scalar hopens h
    · rw [readValue.eq_def] at h
      dsimp only at h
      split at h
      · obtain ⟨⟨s, r⟩, hs, heq⟩ := map_eq_ok.1 h
        cases heq
        exact .text hs
      · cases h
      · cases h
      · split at h
        · next hclose =>
          cases h
          exact .noItems hclose
        · next hfilled =>
          obtain ⟨⟨items, r⟩, hitems, heq⟩ := map_eq_ok.1 h
          cases heq
          exact .list hfilled hitems
      · split at h
        · next hclose =>
          cases h
          exact .noFields hclose
        · next hfilled =>
          obtain ⟨⟨fields, r⟩, hfields, heq⟩ := map_eq_ok.1 h
          cases heq
          exact .map hfilled hfields
      · next hquote hlist hmap hlist' hmap' =>
        refine absurd (fun r => ⟨hquote r, ?_, ?_⟩) hopens
        · cases room with
          | zero => exact fun ht => hlist r ht rfl
          | succ room => exact fun ht => hlist' r room ht rfl
        · cases room with
          | zero => exact fun ht => hmap r ht rfl
          | succ room => exact fun ht => hmap' r room ht rfl
  · intro h
    cases h with
    | text closes =>
      rw [readValue.eq_def]
      exact map_eq_ok.2 ⟨_, closes, rfl⟩
    | noItems closes =>
      rw [readValue_array, closes]
      rfl
    | list filled more =>
      rw [readValue_array]
      split
      · next hclose => exact absurd hclose (filled _)
      · exact map_eq_ok.2 ⟨_, more, rfl⟩
    | noFields closes =>
      rw [readValue_object, closes]
      rfl
    | map filled more =>
      rw [readValue_object]
      split
      · next hclose => exact absurd hclose (filled _)
      · exact map_eq_ok.2 ⟨_, more, rfl⟩
    | scalar opensNone read => rwa [readValue_scalar opensNone]

/-- The items of an array as they are read: one item, and the closing bracket or the items behind a
comma. -/
inductive ReadsItems (fuel room : Nat) (t : Text) : List Data → Text → Prop
  | last {r rest : Text} {item : Data} (value : readValue fuel room t = .ok (item, r))
      (closes : skipSpace r = .scalar ']' :: rest) : ReadsItems fuel room t [item] rest
  | next {r more rest : Text} {item : Data} {items : List Data}
      (value : readValue fuel room t = .ok (item, r)) (comma : skipSpace r = .scalar ',' :: more)
      (items_read : readItems fuel room (skipSpace more) = .ok (items, rest)) :
      ReadsItems fuel room t (item :: items) rest

theorem readItems_eq_ok :
    readItems (fuel + 1) room t = .ok (items, rest) ↔ ReadsItems fuel room t items rest := by
  rw [readItems.eq_def]
  dsimp only
  constructor
  · intro h
    obtain ⟨⟨item, r⟩, hitem, h⟩ := bind_eq_ok.1 h
    dsimp only at h
    split at h
    · next hclose =>
      cases h
      exact .last hitem hclose
    · next hcomma =>
      obtain ⟨⟨items, r'⟩, hitems, h⟩ := bind_eq_ok.1 h
      cases h
      exact .next hitem hcomma hitems
    · cases h
  · intro h
    cases h with
    | last value closes =>
      refine bind_eq_ok.2 ⟨_, value, ?_⟩
      dsimp only
      rw [closes]
      rfl
    | next value comma items_read =>
      refine bind_eq_ok.2 ⟨_, value, ?_⟩
      dsimp only
      rw [comma]
      exact bind_eq_ok.2 ⟨_, items_read, rfl⟩

/-- A field as it is read: its name, a colon and its value, up to what is behind the value. -/
inductive ReadsField (fuel room : Nat) : Text → Text → Data → Text → Prop
  | mk {opened name colon u r : Text} {value : Data}
      (key : readString (.scalar '"' :: opened) (opened.length + 1) opened = .ok (name, colon))
      (parts : skipSpace colon = .scalar ':' :: u)
      (value_read : readValue fuel room (skipSpace u) = .ok (value, r)) :
      ReadsField fuel room (.scalar '"' :: opened) name value r

/-- The fields of an object as they are read, each put over the fields before it. -/
inductive ReadsFields (fuel room : Nat) (fields : List (Data × Data)) (t : Text) :
    List (Data × Data) → Text → Prop
  | last {name r rest : Text} {value : Data} (field : ReadsField fuel room t name value r)
      (closes : skipSpace r = .scalar '}' :: rest) :
      ReadsFields fuel room fields t (Data.put (.text name) value fields) rest
  | next {name r more rest : Text} {value : Data} {found : List (Data × Data)}
      (field : ReadsField fuel room t name value r) (comma : skipSpace r = .scalar ',' :: more)
      (fields_read : readFields fuel room (Data.put (.text name) value fields) (skipSpace more) =
        .ok (found, rest)) : ReadsFields fuel room fields t found rest

theorem readFields_eq_ok : readFields (fuel + 1) room fields t = .ok (found, rest) ↔
    ReadsFields fuel room fields t found rest := by
  rw [readFields.eq_def]
  dsimp only
  constructor
  · intro h
    split at h
    · next opened =>
      obtain ⟨⟨name, colon⟩, hkey, h⟩ := bind_eq_ok.1 h
      dsimp only at h
      split at h
      · next u hparts =>
        obtain ⟨⟨value, r⟩, hvalue, h⟩ := bind_eq_ok.1 h
        have hfield := ReadsField.mk hkey hparts hvalue
        dsimp only at h
        split at h
        · next hclose =>
          cases h
          exact .last hfield hclose
        · next hcomma => exact .next hfield hcomma h
        · cases h
      · cases h
    · cases h
  · intro h
    cases h with
    | last field closes =>
      cases field with
      | mk key parts value_read =>
        refine bind_eq_ok.2 ⟨_, key, ?_⟩
        dsimp only
        rw [parts]
        refine bind_eq_ok.2 ⟨_, value_read, ?_⟩
        dsimp only
        rw [closes]
        rfl
    | next field comma fields_read =>
      cases field with
      | mk key parts value_read =>
        refine bind_eq_ok.2 ⟨_, key, ?_⟩
        dsimp only
        rw [parts]
        refine bind_eq_ok.2 ⟨_, value_read, ?_⟩
        dsimp only
        rw [comma]
        exact fields_read

/-! What the readers take. -/

/-- A reader takes a part of a text, with fuel for its length, before whatever ends it. -/
def Takes {α : Type} (read : Nat → Text → Except Stop (α × Text)) (part : Text) (a : α) : Prop :=
  ∀ fuel rest, part.length ≤ fuel → Ended rest → read fuel (part ++ rest) = .ok (a, rest)

theorem Takes.of_step {α : Type} {read : Nat → Text → Except Stop (α × Text)} {a : α}
    (hpart : part ≠ []) (h : ∀ fuel rest, part.length ≤ fuel + 1 → Ended rest →
      read (fuel + 1) (part ++ rest) = .ok (a, rest)) : Takes read part a := by
  intro fuel rest hfuel hrest
  have hpos := List.length_pos_iff.2 hpart
  obtain ⟨fuel, rfl⟩ := Nat.exists_eq_add_one_of_ne_zero (n := fuel) (by omega)
  exact h fuel rest hfuel hrest

/-- What the readers with so much fuel take. Each of them calls the others with less. -/
structure TakesParts (fuel : Nat) : Prop where
  value : ∀ {room t d rest}, readValue fuel room t = .ok (d, rest) → Ended rest →
    ∃ part, part ≠ [] ∧ t = part ++ rest ∧ Takes (readValue · room) part d ∧
      ((∃ r, t = .scalar '{' :: r) → part.getLast? = some (.scalar '}'))
  items : ∀ {room t items rest}, readItems fuel room t = .ok (items, rest) →
    ∃ part, part ≠ [] ∧ t = part ++ rest ∧ Takes (readItems · room) part items
  fields : ∀ {room fields t found rest}, readFields fuel room fields t = .ok (found, rest) →
    ∃ part, part.getLast? = some (.scalar '}') ∧ t = part ++ rest ∧
      Takes (readFields · room fields) part found

theorem exists_part_of_readItems (ih : TakesParts fuel)
    (h : readItems (fuel + 1) room t = .ok (items, rest)) :
    ∃ part, part ≠ [] ∧ t = part ++ rest ∧ Takes (readItems · room) part items := by
  cases readItems_eq_ok.1 h with
  | last value closes =>
    obtain ⟨space, rfl, hspace, hskip⟩ := exists_skipped closes
    obtain ⟨part, hne, rfl, hpart, -⟩ := ih.value value (ended_of_space hspace (ended_cons rfl _))
    refine ⟨part ++ (space ++ [.scalar ']']), by simp, by simp,
      .of_step (by simp) fun fuel rest' hfuel _ => ?_⟩
    simp only [List.length_append, List.length_singleton] at hfuel
    simp only [List.append_assoc, List.cons_append, List.nil_append]
    have hended := ended_of_space hspace (ended_cons (c := .scalar ']') rfl rest')
    exact readItems_eq_ok.2 (.last (hpart fuel _ (by omega) hended) (hskip rest'))
  | next value comma items_read =>
    obtain ⟨space, rfl, hspace, hskip⟩ := exists_skipped comma
    obtain ⟨part, hne, rfl, hpart, -⟩ := ih.value value (ended_of_space hspace (ended_cons rfl _))
    obtain ⟨items, hitems, heq, htakes⟩ := ih.items items_read
    obtain ⟨space', rfl, hskip'⟩ := exists_skipped_part hitems heq
    refine ⟨part ++ (space ++ .scalar ',' :: (space' ++ items)), by simp, by simp,
      .of_step (by simp) fun fuel rest' hfuel hrest' => ?_⟩
    simp only [List.length_append, List.length_cons] at hfuel
    simp only [List.append_assoc, List.cons_append]
    refine readItems_eq_ok.2 (.next (hpart fuel _ (by omega) ?_) (hskip _) ?_)
    · exact ended_of_space hspace (ended_cons rfl _)
    · rw [hskip']
      exact htakes fuel rest' (by omega) hrest'

theorem exists_part_of_readsField (ih : TakesParts fuel) (h : ReadsField fuel room t name value r)
    (hr : Ended r) : ∃ part, t = part ++ r ∧ ∀ fuel rest, part.length ≤ fuel → Ended rest →
      ReadsField fuel room (part ++ rest) name value rest := by
  cases h with
  | mk key parts value_read =>
    obtain ⟨closing, rfl, hcloses⟩ := exists_part_of_readString key
    obtain ⟨space, rfl, hspace, hskip⟩ := exists_skipped parts
    obtain ⟨part, hne, heq, htakes, -⟩ := ih.value value_read hr
    obtain ⟨space', rfl, hskip'⟩ := exists_skipped_part hne heq
    refine ⟨.scalar '"' :: (closing ++ (space ++ .scalar ':' :: (space' ++ part))), by simp,
      fun fuel rest hfuel hrest => ?_⟩
    simp only [List.length_append, List.length_cons] at hfuel
    simp only [List.append_assoc, List.cons_append]
    refine .mk (hcloses _ _ _ ?_) (hskip _) ?_
    · rw [List.length_append]
      omega
    · rw [hskip']
      exact htakes fuel rest (by omega) hrest

theorem exists_part_of_readFields (ih : TakesParts fuel)
    (h : readFields (fuel + 1) room fields t = .ok (found, rest)) :
    ∃ part, part.getLast? = some (.scalar '}') ∧ t = part ++ rest ∧
      Takes (readFields · room fields) part found := by
  cases readFields_eq_ok.1 h with
  | last field closes =>
    obtain ⟨space, rfl, hspace, hskip⟩ := exists_skipped closes
    obtain ⟨part, rfl, hpart⟩ := exists_part_of_readsField ih field
      (ended_of_space hspace (ended_cons rfl _))
    refine ⟨part ++ space ++ [.scalar '}'], List.getLast?_concat, by simp,
      .of_step (by simp) fun fuel rest' hfuel _ => ?_⟩
    simp only [List.length_append, List.length_singleton] at hfuel
    simp only [List.append_assoc, List.cons_append, List.nil_append]
    have hended := ended_of_space hspace (ended_cons (c := .scalar '}') rfl rest')
    exact readFields_eq_ok.2 (.last (hpart fuel _ (by omega) hended) (hskip rest'))
  | next field comma fields_read =>
    obtain ⟨space, rfl, hspace, hskip⟩ := exists_skipped comma
    obtain ⟨part, rfl, hpart⟩ := exists_part_of_readsField ih field
      (ended_of_space hspace (ended_cons rfl _))
    obtain ⟨more, hlast, heq, htakes⟩ := ih.fields fields_read
    have hmore : more ≠ [] := by
      rintro rfl
      cases hlast
    obtain ⟨space', rfl, hskip'⟩ := exists_skipped_part hmore heq
    refine ⟨part ++ space ++ .scalar ',' :: space' ++ more, ?_, by simp,
      .of_step (by simp) fun fuel rest' hfuel hrest' => ?_⟩
    · rw [List.getLast?_append_of_ne_nil _ hmore, hlast]
    · simp only [List.length_append, List.length_cons] at hfuel
      simp only [List.append_assoc, List.cons_append]
      refine readFields_eq_ok.2 (.next (hpart fuel _ (by omega) ?_) (hskip _) ?_)
      · exact ended_of_space hspace (ended_cons rfl _)
      · rw [hskip']
        exact htakes fuel rest' (by omega) hrest'

theorem exists_part_of_readValue (ih : TakesParts fuel)
    (h : readValue (fuel + 1) room t = .ok (d, rest)) (hrest : Ended rest) :
    ∃ part, part ≠ [] ∧ t = part ++ rest ∧ Takes (readValue · room) part d ∧
      ((∃ r, t = .scalar '{' :: r) → part.getLast? = some (.scalar '}')) := by
  cases readValue_eq_ok.1 h with
  | text closes =>
    obtain ⟨closing, rfl, hcloses⟩ := exists_part_of_readString closes
    refine ⟨.scalar '"' :: closing, List.cons_ne_nil _ _, rfl,
      .of_step (List.cons_ne_nil _ _) fun fuel rest' _ _ => ?_, ?_⟩
    · have hlen := (List.prefix_append closing rest').length_le
      exact readValue_eq_ok.2 (.text (hcloses _ _ _ (hlen.trans (Nat.le_succ _))))
    · rintro ⟨r, hr⟩
      cases hr
  | noItems closes =>
    obtain ⟨space, rfl, -, hskip⟩ := exists_skipped closes
    refine ⟨.scalar '[' :: (space ++ [.scalar ']']), List.cons_ne_nil _ _, by simp,
      .of_step (List.cons_ne_nil _ _) fun fuel rest' _ _ => ?_, ?_⟩
    · simp only [List.append_assoc, List.cons_append, List.nil_append]
      exact readValue_eq_ok.2 (.noItems (hskip rest'))
    · rintro ⟨r, hr⟩
      cases hr
  | list filled more =>
    obtain ⟨items, hitems, heq, htakes⟩ := ih.items more
    rw [heq] at filled
    obtain ⟨space, rfl, hskip⟩ := exists_skipped_part hitems heq
    refine ⟨.scalar '[' :: (space ++ items), List.cons_ne_nil _ _, by simp,
      .of_step (List.cons_ne_nil _ _) fun fuel rest' hfuel hrest' => ?_, ?_⟩
    · simp only [List.length_cons, List.length_append] at hfuel
      simp only [List.append_assoc, List.cons_append]
      refine readValue_eq_ok.2 (.list ?_ ?_)
      · rw [hskip]
        exact append_ne_cons hitems filled rest'
      · rw [hskip]
        exact htakes fuel rest' (by omega) hrest'
    · rintro ⟨r, hr⟩
      cases hr
  | noFields closes =>
    obtain ⟨space, rfl, -, hskip⟩ := exists_skipped closes
    refine ⟨.scalar '{' :: (space ++ [.scalar '}']), List.cons_ne_nil _ _, by simp,
      .of_step (List.cons_ne_nil _ _) fun fuel rest' _ _ => ?_, fun _ => ?_⟩
    · simp only [List.append_assoc, List.cons_append, List.nil_append]
      exact readValue_eq_ok.2 (.noFields (hskip rest'))
    · rw [← List.cons_append, List.getLast?_concat]
  | map filled more =>
    obtain ⟨fields, hlast, heq, htakes⟩ := ih.fields more
    have hfields : fields ≠ [] := by
      rintro rfl
      cases hlast
    rw [heq] at filled
    obtain ⟨space, rfl, hskip⟩ := exists_skipped_part hfields heq
    refine ⟨.scalar '{' :: (space ++ fields), List.cons_ne_nil _ _, by simp,
      .of_step (List.cons_ne_nil _ _) fun fuel rest' hfuel hrest' => ?_, fun _ => ?_⟩
    · simp only [List.length_cons, List.length_append] at hfuel
      simp only [List.append_assoc, List.cons_append]
      refine readValue_eq_ok.2 (.map ?_ ?_)
      · rw [hskip]
        exact append_ne_cons hfields filled rest'
      · rw [hskip]
        exact htakes fuel rest' (by omega) hrest'
    · rw [← List.cons_append, List.getLast?_append_of_ne_nil _ hfields, hlast]
  | scalar opensNone read =>
    obtain ⟨part, hne, rfl, hpart⟩ := exists_part_of_readScalar read hrest
    refine ⟨part, hne, rfl, .of_step hne fun fuel rest' hfuel hrest' => ?_, ?_⟩
    · refine readValue_eq_ok.2 (.scalar (fun r => ⟨?_, ?_, ?_⟩) (hpart rest' hrest'))
      · exact append_ne_cons hne (fun r => (opensNone r).1) rest' r
      · exact append_ne_cons hne (fun r => (opensNone r).2.1) rest' r
      · exact append_ne_cons hne (fun r => (opensNone r).2.2) rest' r
    · rintro ⟨r, hr⟩
      exact absurd hr (opensNone r).2.2

theorem takesParts (fuel : Nat) : TakesParts fuel := by
  induction fuel with
  | zero =>
    -- without fuel every reader fails
    refine ⟨fun h => ?_, fun h => ?_, fun h => ?_⟩
    · cases (readValue.eq_1 _ _).symm.trans h
    · cases (readItems.eq_1 _ _).symm.trans h
    · cases (readFields.eq_1 _ _ _).symm.trans h
  | succ fuel ih =>
    exact ⟨exists_part_of_readValue ih, exists_part_of_readItems ih, exists_part_of_readFields ih⟩

/-! Objects with white space around them. -/

theorem isBlank_of_isSpace (hc : isSpace c = true) : c.isBlank = true := by
  have hall : ∀ x ∈ [.scalar ' ', .scalar '\t', .scalar '\n', .scalar '\r'],
      CodePoint.isBlank x = true := by decide
  exact hall c (by simpa [isSpace, or_assoc] using hc)

theorem exists_brace_of_readsValue (h : ReadsValue fuel room t (.map fields) rest) :
    ∃ r, t = .scalar '{' :: r := by
  cases h with
  | noFields closes => exact ⟨_, rfl⟩
  | map filled more => exact ⟨_, rfl⟩
  | scalar opensNone read =>
    exfalso
    rw [readScalar] at read
    split at read
    · next found hfound =>
      cases read
      obtain ⟨w, hw, hdrop⟩ := List.exists_of_findSome?_eq_some hfound
      obtain ⟨r, -, hr⟩ := Option.map_eq_some_iff.1 hdrop
      simp only [words, List.mem_cons, List.not_mem_nil, or_false] at hw
      rcases hw with rfl | rfl | rfl | rfl | rfl | rfl <;> cases hr
    · rw [readNumber_eq, readUnsigned] at read
      dsimp only at read
      split_ifs at read <;> cases read

/-- A decoded object is what stands between its two brackets, and only white space is around it. -/
theorem exists_part_of_decode (h : decode room t = .ok (.map fields)) :
    ∃ before inside after, t = before ++ (.scalar '{' :: inside ++ after) ∧
      (∀ c ∈ before, isSpace c = true) ∧ (∀ c ∈ after, isSpace c = true) ∧
      (.scalar '{' :: inside).getLast? = some (.scalar '}') ∧
      Takes (readValue · room) (.scalar '{' :: inside) (.map fields) := by
  rw [decode] at h
  split_ifs at h
  split at h
  · cases h
  · next d rest hread =>
    dsimp only at h
    split_ifs at h with hempty
    cases h
    have hafter : ∀ c ∈ rest, isSpace c = true :=
      List.dropWhile_eq_nil_iff.1 (List.isEmpty_iff.1 hempty)
    have hended : Ended rest := by
      simpa only [List.append_nil] using ended_of_space hafter ended_nil
    obtain ⟨r, hbrace⟩ := exists_brace_of_readsValue (readValue_eq_ok.1 hread)
    obtain ⟨part, hne, hpart, htakes, hlast⟩ := (takesParts _).value hread hended
    obtain ⟨c, inside, rfl⟩ := List.exists_cons_of_ne_nil hne
    obtain ⟨before, ht, hbefore, -⟩ := exists_skipped hpart
    obtain rfl : c = .scalar '{' := (List.cons.inj (hpart.symm.trans hbrace)).1
    exact ⟨before, inside, rest, ht, hbefore, hafter, hlast ⟨r, hbrace⟩, htakes⟩

theorem decode_trim (h : decode room t = .ok (.map fields)) :
    decode room (Text.trim t) = .ok (.map fields) := by
  obtain ⟨before, inside, after, rfl, hbefore, hafter, hlast, htakes⟩ := exists_part_of_decode h
  have hblank {space : Text} (hspace : ∀ c ∈ space, isSpace c = true) : Text.isBlank space = true :=
    List.all_eq_true.2 fun c hc => isBlank_of_isSpace (hspace c hc)
  have htrim : Text.trim (before ++ (.scalar '{' :: inside ++ after)) = .scalar '{' :: inside := by
    have hstart : Text.trimStart (.scalar '{' :: inside ++ after) = .scalar '{' :: inside ++ after :=
      List.dropWhile_cons_of_neg (by decide)
    have hend : ∀ c ∈ (.scalar '{' :: inside : Text).getLast?, c.isBlank = false := by
      rw [hlast]
      rintro c ⟨⟩
      rfl
    rw [Text.trim, Text.trimStart_append, if_pos (hblank hbefore), hstart,
      Text.trimEnd_append_of_last hend, Text.trimEnd_eq_nil.2 (hblank hafter), List.append_nil]
  have hread : readValue (2 * (.scalar '{' :: inside : Text).length + 2) room
      (.scalar '{' :: inside) = .ok (.map fields, []) := by
    simpa only [List.append_nil] using htakes _ [] (by omega) ended_nil
  have hmark : (.scalar '{' :: inside : Text).head?.any (·.value = 0xFEFF) = false := rfl
  have hskip : skipSpace (.scalar '{' :: inside) = .scalar '{' :: inside := rfl
  rw [htrim, decode, hmark, if_neg Bool.false_ne_true, hskip, hread]
  rfl

end Redraft.Json
