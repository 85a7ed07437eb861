import SecretStore.Proofs.Json.Short
import SecretStore.Proofs.Json.String

/-!
Values survive JSON text. The reader stops behind a value because what follows
one, a comma, a bracket or the end, belongs to no number; the fuel that it
needs is bounded by the length of the text, and it needs as many levels as the
value has.
-/

namespace SecretStore.Json

mutual

/-- A value that is read as it was written, up to surrogates in its texts: its integers can
be written, its objects name each field once, and no number in it is rounded. -/
def IsPlain : Json → Prop
  | .float _ => False
  | .int n => isShort n.natAbs
  | .arr items => ArePlain items
  | .obj fields => (fields.map Prod.fst).Nodup ∧ FieldsPlain fields
  | .null | .bool _ | .str _ => True

def ArePlain : List Json → Prop
  | [] => True
  | item :: rest => IsPlain item ∧ ArePlain rest

def FieldsPlain : List (Text × Json) → Prop
  | [] => True
  | (name, value) :: rest => name.Unpaired ∧ IsPlain value ∧ FieldsPlain rest

end

mutual

def joined : Json → Json
  | .str s => .str s.joined
  | .arr items => .arr (joinedItems items)
  | .obj fields => .obj (joinedFields fields)
  | j => j

def joinedItems : List Json → List Json
  | [] => []
  | item :: rest => joined item :: joinedItems rest

def joinedFields : List (Text × Json) → List (Text × Json)
  | [] => []
  | (name, value) :: rest => (name, joined value) :: joinedFields rest

end

theorem names_joinedFields (fields : List (Text × Json)) :
    (joinedFields fields).map Prod.fst = fields.map Prod.fst := by
  induction fields with
  | nil => rfl
  | cons field rest ih => exact congrArg (field.1 :: ·) ih

def Ends (rest : List Char) : Prop :=
  ∀ c ∈ rest.head?, c = ',' ∨ c = ']' ∨ c = '}'

theorem Ends.head {rest : List Char} (h : Ends rest) {c : Char} {cs : List Char}
    (eq : rest = c :: cs) : c = ',' ∨ c = ']' ∨ c = '}' := by
  subst eq
  exact h c rfl

theorem spanDigits_append {ds rest : List Char} (digits : ∀ c ∈ ds, Text.isAsciiDigit c = true)
    (ends : Ends rest) : Decimal.spanDigits (ds ++ rest) = (ds, rest) := by
  rw [Decimal.spanDigits, List.span_eq_takeWhile_dropWhile, List.takeWhile_append_of_pos digits,
    List.dropWhile_append_of_pos digits]
  cases rest with
  | nil => simp
  | cons c cs =>
    have other : Text.isAsciiDigit c = false := by
      rcases ends.head rfl with rfl | rfl | rfl <;> decide
    simp [other]

theorem spanWhole_decimal (n : Nat) {rest : List Char} (ends : Ends rest) :
    spanWhole (Text.decimal n ++ rest) = (Text.decimal n, rest) := by
  by_cases zero : n = 0
  · subst zero
    rfl
  · obtain ⟨c, cs, digits, other⟩ := Text.head_decimal zero
    have span := spanDigits_append (Text.isAsciiDigit_decimal n) ends
    rw [digits] at span ⊢
    rw [← span, List.cons_append, spanWhole]
    intro rest same
    exact other (List.cons.inj same).1

theorem spanBehind_ends {rest : List Char} (ends : Ends rest) : spanBehind rest = (none, rest) := by
  rw [spanBehind]
  intro rest' same
  rcases ends.head same with h | h | h <;> exact absurd h (by decide)

theorem spanExponent_ends {rest : List Char} (ends : Ends rest) :
    Decimal.spanExponent rest = (0, rest) := by
  cases rest with
  | nil => rfl
  | cons c cs => rcases ends.head rfl with rfl | rfl | rfl <;> rfl

theorem readUnsigned_decimal (negative : Bool) {n : Nat} (h : isShort n) {rest : List Char}
    (ends : Ends rest) :
    readUnsigned negative (Text.decimal n ++ rest) =
      some (.ok (.int (if negative then -n else n), rest)) := by
  have short : ¬ digitLimit < (Text.decimal n).length :=
    Nat.not_lt.mpr (of_decide_eq_true h)
  have nonempty : (Text.decimal n).isEmpty = false := by
    rw [List.isEmpty_eq_false_iff]
    exact Text.decimal_ne_nil n
  rw [readUnsigned, spanWhole_decimal n ends]
  simp only [nonempty, spanBehind_ends ends, spanExponent_ends ends, Bool.false_eq_true, if_false,
    Option.isNone_none, beq_self_eq_true, Bool.and_self, if_true, if_neg short,
    Text.digitsValue_decimal]

theorem digit_ne {c : Char} (digit : Text.isAsciiDigit c = true) {w : Char}
    (other : Text.isAsciiDigit w = false) : c ≠ w := by
  rintro rfl
  rw [digit] at other
  cases other

theorem readFront_digit {c : Char} (digit : Text.isAsciiDigit c = true) (cs : List Char) :
    readFront (c :: cs) = readUnsigned false (c :: cs) := by
  have n := digit_ne digit (w := 'n') rfl
  have t := digit_ne digit (w := 't') rfl
  have f := digit_ne digit (w := 'f') rfl
  have nan := digit_ne digit (w := 'N') rfl
  have infinity := digit_ne digit (w := 'I') rfl
  have minus := digit_ne digit (w := '-') rfl
  simp [readFront, dropWord?, n.symm, t.symm, f.symm, nan.symm, infinity.symm, minus, minus.symm]

theorem readFront_minus {c : Char} (digit : Text.isAsciiDigit c = true) (cs : List Char) :
    readFront ('-' :: c :: cs) = readUnsigned true (c :: cs) := by
  have infinity := digit_ne digit (w := 'I') rfl
  simp [readFront, dropWord?, infinity.symm]

theorem cons_decimal (n : Nat) :
    ∃ c cs, Text.decimal n = c :: cs ∧ Text.isAsciiDigit c = true := by
  obtain ⟨c, cs, digits⟩ := List.exists_cons_of_ne_nil (Text.decimal_ne_nil n)
  exact ⟨c, cs, digits, Text.isAsciiDigit_decimal n c (digits ▸ List.mem_cons_self ..)⟩

theorem readFront_renderInt {n : Int} (h : isShort n.natAbs) {rest : List Char}
    (ends : Ends rest) : readFront (renderInt n ++ rest) = some (.ok (.int n, rest)) := by
  obtain ⟨c, cs, digits, digit⟩ := cons_decimal n.natAbs
  by_cases negative : n < 0
  · have read := readUnsigned_decimal true h ends
    rw [digits, List.cons_append] at read
    rw [renderInt, if_pos negative, digits, List.cons_append, List.cons_append,
      readFront_minus digit, read]
    have value : -(n.natAbs : Int) = n := by omega
    simp only [if_true, value]
  · have read := readUnsigned_decimal false h ends
    rw [digits, List.cons_append] at read
    rw [renderInt, if_neg negative, digits, List.cons_append, readFront_digit digit, read]
    have value : (n.natAbs : Int) = n := by omega
    simp only [Bool.false_eq_true, if_false, value]

theorem spanChars_append (cs : List Char) (rest : List CodePoint) :
    spanChars (cs.map .char ++ rest) = (cs ++ (spanChars rest).1, (spanChars rest).2) := by
  induction cs with
  | nil => rfl
  | cons c cs ih =>
    rw [List.map_cons, List.cons_append, spanChars, ih]
    rfl

theorem append_spanChars (ps : List CodePoint) :
    (spanChars ps).1.map .char ++ (spanChars ps).2 = ps := by
  induction ps with
  | nil => rfl
  | cons p ps ih =>
    cases p with
    | char c => exact congrArg (CodePoint.char c :: ·) ih
    | surrogate n => rfl

theorem readScalar_front (cs : List Char) {j : Json} {rest : List CodePoint}
    (front : readFront (cs ++ (spanChars rest).1) = some (.ok (j, (spanChars rest).1))) :
    readScalar (cs.map .char ++ rest) = .ok (j, rest) := by
  rw [readScalar, spanChars_append]
  simp only [front, append_spanChars]

theorem readValue_scalar (levels fuel : Nat) {c : Char} {cs : List CodePoint} (quote : c ≠ '"')
    (bracket : c ≠ '[') (brace : c ≠ '{') :
    readValue levels (fuel + 1) (.char c :: cs) = readScalar (.char c :: cs) := by
  simp [readValue, quote, bracket, brace]

theorem readValue_renderString (levels fuel : Nat) (s : Text) (rest : List CodePoint) :
    readValue levels (fuel + 1) ((renderString s).map .char ++ rest) =
      .ok (.str s.joined, rest) := by
  rw [renderString, List.cons_append, List.map_cons, List.cons_append, List.map_append,
    List.append_assoc, List.map_singleton, List.singleton_append, readValue,
    readString_written]
  rfl

theorem readValue_renderInt (levels fuel : Nat) {n : Int} (h : isShort n.natAbs)
    {rest : List CodePoint} (ends : Ends (spanChars rest).1) :
    readValue levels (fuel + 1) ((renderInt n).map .char ++ rest) = .ok (.int n, rest) := by
  have read := readScalar_front (renderInt n) (readFront_renderInt h ends)
  obtain ⟨c, cs, digits, digit⟩ := cons_decimal n.natAbs
  by_cases negative : n < 0
  · rw [renderInt, if_pos negative] at read ⊢
    exact (readValue_scalar levels fuel (by decide) (by decide) (by decide)).trans read
  · rw [renderInt, if_neg negative, digits] at read ⊢
    exact (readValue_scalar levels fuel (digit_ne digit rfl) (digit_ne digit rfl)
      (digit_ne digit rfl)).trans read

theorem head_render {j : Json} (plain : j.IsPlain) :
    ∃ c cs, render j = c :: cs ∧ isSpace (.char c) = false ∧ c ≠ ']' := by
  cases j with
  | null => exact ⟨_, _, rfl, by decide, by decide⟩
  | bool b => cases b <;> exact ⟨_, _, rfl, by decide, by decide⟩
  | int n =>
    obtain ⟨c, cs, digits, digit⟩ := cons_decimal n.natAbs
    have visible : isSpace (.char c) = false := by
      simp [isSpace, digit_ne digit (w := ' ') rfl, digit_ne digit (w := '\t') rfl,
        digit_ne digit (w := '\n') rfl, digit_ne digit (w := '\r') rfl]
    rw [render, renderInt, digits]
    split
    · exact ⟨_, _, rfl, by decide, by decide⟩
    · exact ⟨_, _, rfl, visible, digit_ne digit rfl⟩
  | float x => exact plain.elim
  | str s => exact ⟨_, _, rfl, by decide, by decide⟩
  | arr items => exact ⟨_, _, rfl, by decide, by decide⟩
  | obj fields => exact ⟨_, _, rfl, by decide, by decide⟩

theorem skipSpace_visible {p : CodePoint} (visible : isSpace p = false) (ps : List CodePoint) :
    skipSpace (p :: ps) = p :: ps := by
  simp [skipSpace, visible]

theorem skipSpace_blank (ps : List CodePoint) : skipSpace (.char ' ' :: ps) = skipSpace ps := by
  simp [skipSpace, isSpace]

theorem skipSpace_render {j : Json} (plain : j.IsPlain) (rest : List CodePoint) :
    skipSpace ((render j).map .char ++ rest) = (render j).map .char ++ rest := by
  obtain ⟨c, cs, text, visible, _⟩ := head_render plain
  rw [text, List.map_cons, List.cons_append, skipSpace_visible visible]

theorem ends_comma (rest : List CodePoint) : Ends (spanChars (.char ',' :: rest)).1 := by
  intro c head
  exact .inl (Option.some.inj head).symm

theorem ends_bracket (rest : List CodePoint) : Ends (spanChars (.char ']' :: rest)).1 := by
  intro c head
  exact .inr (.inl (Option.some.inj head).symm)

theorem ends_brace (rest : List CodePoint) : Ends (spanChars (.char '}' :: rest)).1 := by
  intro c head
  exact .inr (.inr (Option.some.inj head).symm)

theorem setField_fresh {name : Text} {value : Json} {fields : List (Text × Json)}
    (fresh : name ∉ fields.map Prod.fst) :
    setField name value fields = fields ++ [(name, value)] := by
  induction fields with
  | nil => rfl
  | cons field rest ih =>
    rw [List.map_cons, List.mem_cons, not_or] at fresh
    rw [setField, if_neg (Ne.symm fresh.1), ih fresh.2]
    rfl

theorem ofFields_distinct {fields : List (Text × Json)}
    (distinct : (fields.map Prod.fst).Nodup) : ofFields fields = fields := by
  have kept (written : List (Text × Json)) :
      ((written ++ fields).map Prod.fst).Nodup →
      fields.foldl (fun fields field => setField field.1 field.2 fields) written =
        written ++ fields := by
    clear distinct
    intro distinct
    induction fields generalizing written with
    | nil => exact (List.append_nil _).symm
    | cons field rest ih =>
      have fresh : field.1 ∉ written.map Prod.fst := by
        intro member
        rw [List.map_append, List.nodup_append] at distinct
        exact distinct.2.2 _ member _ (List.mem_cons_self ..) rfl
      rw [List.foldl_cons, setField_fresh fresh, ih, List.append_assoc, List.singleton_append]
      rwa [List.append_assoc, List.singleton_append]
  exact kept [] distinct

theorem renderItems_cons (item next : Json) (items : List Json) :
    renderItems (item :: next :: items) =
      render item ++ ',' :: ' ' :: renderItems (next :: items) := rfl

theorem renderFields_cons (name : Text) (value : Json) (next : Text × Json)
    (fields : List (Text × Json)) :
    renderFields ((name, value) :: next :: fields) =
      renderString name ++ ':' :: ' ' :: render value ++ ',' :: ' ' ::
        renderFields (next :: fields) := rfl

theorem head_renderItems {item : Json} (plain : item.IsPlain) (items : List Json) :
    ∃ c cs, renderItems (item :: items) = c :: cs ∧ isSpace (.char c) = false ∧ c ≠ ']' := by
  obtain ⟨c, cs, text, visible, other⟩ := head_render plain
  cases items with
  | nil => exact ⟨c, cs, text, visible, other⟩
  | cons next items =>
    refine ⟨c, cs ++ ',' :: ' ' :: renderItems (next :: items), ?_, visible, other⟩
    rw [renderItems_cons, text, List.cons_append]

theorem head_renderFields (field : Text × Json) (fields : List (Text × Json)) :
    ∃ cs, renderFields (field :: fields) = '"' :: cs := by
  cases fields with
  | nil => exact ⟨_, rfl⟩
  | cons next fields => exact ⟨_, rfl⟩

theorem readValue_list {levels fuel : Nat} {items : List Json} {text rest cs : List CodePoint}
    {c : Char} (front : text = .char c :: cs) (visible : isSpace (.char c) = false)
    (other : c ≠ ']') (read : readItems levels fuel text = .ok (items, rest)) :
    readValue (levels + 1) (fuel + 1) (.char '[' :: text) = .ok (.arr items, rest) := by
  subst front
  rw [readValue.eq_def]
  simp only [skipSpace_visible visible]
  simp [other, read]

theorem readValue_object {levels fuel : Nat} {fields : List (Text × Json)}
    {text rest cs : List CodePoint} (front : text = .char '"' :: cs)
    (distinct : (fields.map Prod.fst).Nodup)
    (read : readFields levels fuel text = .ok (fields, rest)) :
    readValue (levels + 1) (fuel + 1) (.char '{' :: text) = .ok (.obj fields, rest) := by
  subst front
  have visible : skipSpace (.char '"' :: cs) = .char '"' :: cs := skipSpace_visible (by decide) cs
  rw [readValue.eq_def]
  simp only [visible]
  simp [read, ofFields_distinct distinct]

theorem readItems_last {levels fuel : Nat} {item : Json} {text rest : List CodePoint}
    (read : readValue levels fuel text = .ok (item, .char ']' :: rest)) :
    readItems levels (fuel + 1) text = .ok ([item], rest) := by
  rw [readItems, read]
  rfl

theorem readItems_more {levels fuel : Nat} {item : Json} {items : List Json}
    {text next rest : List CodePoint}
    (read : readValue levels fuel text = .ok (item, .char ',' :: .char ' ' :: next))
    (visible : skipSpace next = next) (more : readItems levels fuel next = .ok (items, rest)) :
    readItems levels (fuel + 1) text = .ok (item :: items, rest) := by
  have blank : skipSpace (.char ' ' :: next) = next := (skipSpace_blank next).trans visible
  rw [readItems, read]
  change (readItems levels fuel (skipSpace (.char ' ' :: next)) >>= fun result =>
    Except.ok (item :: result.1, result.2)) = _
  rw [blank, more]
  rfl

theorem readFields_name {levels fuel : Nat} {name : Text} (apart : name.Unpaired) {value : Json}
    {text next : List CodePoint} (read : readValue levels fuel text = .ok (value, next))
    (visible : skipSpace text = text) :
    readFields levels (fuel + 1)
        ((renderString name).map .char ++ .char ':' :: .char ' ' :: text) =
      match skipSpace next with
      | .char '}' :: rest => .ok ([(name, value)], rest)
      | .char ',' :: rest => do
        let (fields, rest) ← readFields levels fuel (skipSpace rest)
        return ((name, value) :: fields, rest)
      | rest => .error (.fault .expectingComma rest) := by
  have blank : skipSpace (.char ' ' :: text) = text := (skipSpace_blank text).trans visible
  have colon : skipSpace (.char ':' :: .char ' ' :: text) = .char ':' :: .char ' ' :: text := rfl
  rw [renderString, List.cons_append, List.map_cons, List.cons_append, List.map_append,
    List.append_assoc, List.map_singleton, List.singleton_append, readFields,
    readString_written, Text.joined_of_unpaired apart]
  dsimp only [bind, Except.bind]
  simp only [colon, blank, read]
  rfl

theorem readFields_last {levels fuel : Nat} {name : Text} (apart : name.Unpaired) {value : Json}
    {text rest : List CodePoint}
    (read : readValue levels fuel text = .ok (value, .char '}' :: rest))
    (visible : skipSpace text = text) :
    readFields levels (fuel + 1)
        ((renderString name).map .char ++ .char ':' :: .char ' ' :: text) =
      .ok ([(name, value)], rest) := by
  rw [readFields_name apart read visible]
  rfl

theorem readFields_more {levels fuel : Nat} {name : Text} (apart : name.Unpaired) {value : Json}
    {fields : List (Text × Json)} {text next rest : List CodePoint}
    (read : readValue levels fuel text = .ok (value, .char ',' :: .char ' ' :: next))
    (visible : skipSpace text = text) (next_visible : skipSpace next = next)
    (more : readFields levels fuel next = .ok (fields, rest)) :
    readFields levels (fuel + 1)
        ((renderString name).map .char ++ .char ':' :: .char ' ' :: text) =
      .ok ((name, value) :: fields, rest) := by
  have blank : skipSpace (.char ' ' :: next) = next := (skipSpace_blank next).trans next_visible
  have comma : skipSpace (.char ',' :: .char ' ' :: next) = .char ',' :: .char ' ' :: next := rfl
  rw [readFields_name apart read visible]
  simp only [comma, blank, more]
  rfl

mutual

theorem readValue_render : ∀ (j : Json) (levels fuel : Nat) (rest : List CodePoint), j.IsPlain →
    j.depth ≤ levels → Ends (spanChars rest).1 → 2 * (render j).length ≤ fuel →
    readValue levels fuel ((render j).map .char ++ rest) = .ok (j.joined, rest)
  | .null, levels, fuel + 1, rest, _, _, _, _ =>
    (readValue_scalar levels fuel (by decide) (by decide) (by decide)).trans
      (readScalar_front ['n', 'u', 'l', 'l'] rfl)
  | .bool true, levels, fuel + 1, rest, _, _, _, _ =>
    (readValue_scalar levels fuel (by decide) (by decide) (by decide)).trans
      (readScalar_front ['t', 'r', 'u', 'e'] rfl)
  | .bool false, levels, fuel + 1, rest, _, _, _, _ =>
    (readValue_scalar levels fuel (by decide) (by decide) (by decide)).trans
      (readScalar_front ['f', 'a', 'l', 's', 'e'] rfl)
  | .int n, levels, fuel + 1, rest, plain, _, ends, _ => readValue_renderInt levels fuel plain ends
  | .str s, levels, fuel + 1, rest, _, _, _, _ => readValue_renderString levels fuel s rest
  | .arr [], levels + 1, fuel + 1, rest, _, _, _, _ => rfl
  | .arr (item :: items), levels + 1, fuel + 1, rest, plain, fits, _, enough => by
    rw [render, List.cons_append, List.length_cons, List.length_append] at enough
    obtain ⟨c, cs, text, visible, other⟩ := head_renderItems plain.1 items
    have read := readItems_render (item :: items) levels fuel rest (List.cons_ne_nil _ _) plain
      (Nat.le_of_succ_le_succ fits) (by omega)
    rw [render, List.cons_append, List.map_cons, List.cons_append, List.map_append,
      List.append_assoc, List.map_singleton, List.singleton_append]
    exact readValue_list (by rw [text, List.map_cons, List.cons_append]) visible other read
  | .obj [], levels + 1, fuel + 1, rest, _, _, _, _ => rfl
  | .obj (field :: fields), levels + 1, fuel + 1, rest, plain, fits, _, enough => by
    rw [render, List.cons_append, List.length_cons, List.length_append] at enough
    obtain ⟨cs, text⟩ := head_renderFields field fields
    have read := readFields_render (field :: fields) levels fuel rest (List.cons_ne_nil _ _) plain.2
      (Nat.le_of_succ_le_succ fits) (by omega)
    rw [render, List.cons_append, List.map_cons, List.cons_append, List.map_append,
      List.append_assoc, List.map_singleton, List.singleton_append]
    exact readValue_object (by rw [text, List.map_cons, List.cons_append])
      ((names_joinedFields _).symm ▸ plain.1) read
  | .arr _, 0, _, _, _, fits, _, _ | .obj _, 0, _, _, _, fits, _, _ =>
    absurd fits (Nat.not_succ_le_zero _)
  | j, _, 0, rest, plain, _, _, enough => by
    obtain ⟨c, cs, text, _⟩ := head_render plain
    rw [text, List.length_cons] at enough
    omega

theorem readItems_render : ∀ (items : List Json) (levels fuel : Nat) (rest : List CodePoint),
    items ≠ [] → ArePlain items → itemsDepth items ≤ levels →
    2 * (renderItems items).length + 1 ≤ fuel →
    readItems levels fuel ((renderItems items).map .char ++ .char ']' :: rest) =
      .ok (joinedItems items, rest)
  | [], _, _, _, nonempty, _, _, _ => absurd rfl nonempty
  | [item], levels, fuel + 1, rest, _, plain, fits, enough => by
    rw [renderItems] at enough
    exact readItems_last (readValue_render item levels fuel _ plain.1
      (Nat.le_trans (Nat.le_max_left ..) fits) (ends_bracket rest) (by omega))
  | item :: next :: items, levels, fuel + 1, rest, _, plain, fits, enough => by
    rw [renderItems_cons, List.length_append, List.length_cons, List.length_cons] at enough
    obtain ⟨c, cs, text, visible, _⟩ := head_renderItems plain.2.1 items
    have more := readItems_render (next :: items) levels fuel rest (List.cons_ne_nil _ _) plain.2
      (Nat.le_trans (Nat.le_max_right ..) fits) (by omega)
    rw [renderItems_cons, List.map_append, List.append_assoc, List.map_cons, List.map_cons,
      List.cons_append, List.cons_append]
    refine readItems_more (readValue_render item levels fuel _ plain.1
      (Nat.le_trans (Nat.le_max_left ..) fits) (ends_comma _) (by omega)) ?_ more
    rw [text, List.map_cons, List.cons_append, skipSpace_visible visible]
  | _ :: _, _, 0, _, _, _, _, enough => by omega

theorem readFields_render : ∀ (fields : List (Text × Json)) (levels fuel : Nat)
    (rest : List CodePoint), fields ≠ [] → FieldsPlain fields → fieldsDepth fields ≤ levels →
    2 * (renderFields fields).length + 1 ≤ fuel →
    readFields levels fuel ((renderFields fields).map .char ++ .char '}' :: rest) =
      .ok (joinedFields fields, rest)
  | [], _, _, _, nonempty, _, _, _ => absurd rfl nonempty
  | [(name, value)], levels, fuel + 1, rest, _, plain, fits, enough => by
    rw [renderFields, List.length_append, List.length_cons, List.length_cons] at enough
    have read := readValue_render value levels fuel _ plain.2.1
      (Nat.le_trans (Nat.le_max_left ..) fits) (ends_brace rest) (by omega)
    rw [renderFields, List.map_append, List.append_assoc, List.map_cons, List.map_cons,
      List.cons_append, List.cons_append]
    exact readFields_last plain.1 read (skipSpace_render plain.2.1 _)
  | (name, value) :: next :: fields, levels, fuel + 1, rest, _, plain, fits, enough => by
    rw [renderFields_cons, List.length_append, List.length_cons, List.length_cons] at enough
    simp only [List.length_append, List.length_cons] at enough
    obtain ⟨cs, text⟩ := head_renderFields next fields
    have read := readValue_render value levels fuel
      (.char ',' :: .char ' ' :: ((renderFields (next :: fields)).map .char ++ .char '}' :: rest))
      plain.2.1 (Nat.le_trans (Nat.le_max_left ..) fits) (ends_comma _) (by omega)
    have more := readFields_render (next :: fields) levels fuel rest (List.cons_ne_nil _ _)
      plain.2.2 (Nat.le_trans (Nat.le_max_right ..) fits) (by omega)
    have visible :
        skipSpace ((renderFields (next :: fields)).map .char ++ .char '}' :: rest) =
          (renderFields (next :: fields)).map .char ++ .char '}' :: rest := by
      rw [text, List.map_cons, List.cons_append, skipSpace_visible (by decide)]
    simp only [renderFields_cons, List.map_append, List.map_cons, List.append_assoc,
      List.cons_append]
    exact readFields_more plain.1 read (skipSpace_render plain.2.1 _) visible more
  | _ :: _, _, 0, _, _, _, _, enough => by omega

end

theorem read_render {levels : Nat} {j : Json} (plain : j.IsPlain) (fits : j.depth ≤ levels) :
    read levels ((render j).map .char) = .ok j.joined := by
  have front := skipSpace_render plain []
  have value := readValue_render j levels (2 * (render j).length + 2) [] plain fits nofun (by omega)
  rw [List.append_nil] at front value
  rw [read, List.length_map, front, value]
  rfl

end SecretStore.Json
