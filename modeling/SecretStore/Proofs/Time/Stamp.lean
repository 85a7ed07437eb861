import SecretStore.Proofs.Text.Digit
import SecretStore.Time.Stamp
import Mathlib.Data.List.Basic

/-!
The text of a moment is read back. Its numbers have a fixed width, so the
reader, which counts digits and looks at the character behind them, takes them
apart as they were put together; what the text leaves out is zero.
-/

namespace SecretStore.Stamp

theorem readDigits_digits {ds : List Char} (digits : ∀ c ∈ ds, Text.isAsciiDigit c = true)
    (n : Nat) (rest : List Char) :
    readDigits ds.length n (ds ++ rest) = some (Nat.ofDigitChars 10 ds n, rest) := by
  induction ds generalizing n with
  | nil => rfl
  | cons c cs ih =>
    have first := Text.asciiDigit_of_isAsciiDigit (digits c (List.mem_cons_self ..))
    rw [List.length_cons, List.cons_append, readDigits, first]
    simp only [ih fun d member => digits d (List.mem_cons_of_mem _ member)]
    rw [Nat.ofDigitChars_cons]
    rfl

theorem readDigits_padded {w n : Nat} (positive : 0 < w) (bound : n < 10 ^ w)
    (rest : List Char) :
    readDigits w 0 (Text.padded w n ++ rest) = some (n, rest) := by
  have read := readDigits_digits (Text.isAsciiDigit_padded w n) 0 rest
  rwa [Text.length_padded positive bound, ← Text.digitsValue_eq, Text.digitsValue_padded] at read

theorem two_digits {n : Nat} (bound : n < 100) :
    ∃ a b, Text.padded 2 n = [a, b] ∧ Text.isAsciiDigit a = true ∧ Text.isAsciiDigit b = true ∧
      readDigits 2 0 [a, b] = some (n, []) := by
  have size : (Text.padded 2 n).length = 2 := Text.length_padded (by decide) bound
  have digits := Text.isAsciiDigit_padded 2 n
  have read := readDigits_padded (w := 2) (by decide) bound []
  obtain ⟨a, b, text⟩ := List.length_eq_two.mp size
  rw [text] at digits read
  exact ⟨a, b, text, digits a (by simp), digits b (by simp), read⟩

section Clock

variable {separated : Bool} {read : List Nat} {n : Nat}

theorem readParts_end (bound : n < 100) (after : List Char) :
    readParts separated read (Text.padded 2 n) after =
      some (read ++ [n], 0, peek after != '\x00') := by
  obtain ⟨a, b, text, _, _, value⟩ := two_digits bound
  rw [text, readParts, value]
  rfl

theorem readParts_colon (bound : n < 100) (few : read.length < 2)
    (colons : read ≠ [] → separated = true) {rest : List Char} (nonempty : rest ≠ [])
    (after : List Char) :
    readParts separated read (Text.padded 2 n ++ ':' :: rest) after =
      readParts true (read ++ [n]) rest after := by
  obtain ⟨a, b, text, _, _, value⟩ := two_digits bound
  obtain ⟨c, cs, rfl⟩ := List.exists_cons_of_ne_nil nonempty
  have colon : peek (':' :: c :: cs ++ after) = ':' := rfl
  have separates : (if read.isEmpty = true then true else separated) = true := by
    cases read with
    | nil => rfl
    | cons first others => exact colons (List.cons_ne_nil _ _)
  rw [text, List.cons_append, List.cons_append, List.nil_append, readParts, value]
  simp only [colon, separates, beq_self_eq_true, Bool.and_self, if_true,
    if_neg (Nat.not_le.mpr few)]

theorem readFraction_padded {micro : Nat} (bound : micro < 1000000) (after : List Char) :
    readFraction (Text.padded 6 micro) after = some (micro, peek after != '\x00') := by
  have size : (Text.padded 6 micro).length = 6 := Text.length_padded (by decide) bound
  have value := readDigits_padded (w := 6) (by decide) bound []
  rw [List.append_nil] at value
  rw [readFraction, size]
  simp [value]

theorem readParts_point (bound : n < 100) {micro : Nat} (fraction : micro < 1000000)
    (after : List Char) :
    readParts separated read (Text.padded 2 n ++ '.' :: Text.padded 6 micro) after =
      some (read ++ [n], micro, peek after != '\x00') := by
  obtain ⟨a, b, text, _, _, value⟩ := two_digits bound
  have millionths := readFraction_padded fraction after
  have size : (Text.padded 6 micro).length = 6 := Text.length_padded (by decide) fraction
  obtain ⟨c, cs, front⟩ := List.exists_cons_of_length_eq_add_one size
  have point : peek ('.' :: c :: cs ++ after) = '.' := rfl
  have apart : ('.' == ':') = false := by decide
  rw [front] at millionths
  rw [text, List.cons_append, List.cons_append, List.nil_append, readParts, value, front]
  simp only [point, apart, Bool.and_false, Bool.false_eq_true, if_false, beq_self_eq_true,
    Bool.true_or, if_true, millionths, Option.map_some]

end Clock

def secondsText (second micro : Nat) : List Char :=
  Text.padded 2 second ++ (if micro = 0 then [] else '.' :: Text.padded 6 micro)

theorem readParts_seconds {separated : Bool} {read : List Nat} {second micro : Nat}
    (bound : second < 100) (fraction : micro < 1000000) (after : List Char) :
    readParts separated read (secondsText second micro) after =
      some (read ++ [second], micro, peek after != '\x00') := by
  rw [secondsText]
  by_cases none_left : micro = 0
  · rw [if_pos none_left, List.append_nil, readParts_end bound, none_left]
  · rw [if_neg none_left, readParts_point bound fraction]

theorem padded_ne_nil (n : Nat) : Text.padded 2 n ≠ [] := by
  rw [Text.padded]
  exact List.append_ne_nil_of_right_ne_nil _ (Text.decimal_ne_nil n)

theorem secondsText_ne_nil (second micro : Nat) : secondsText second micro ≠ [] :=
  List.append_ne_nil_of_left_ne_nil (padded_ne_nil second) _

theorem readClock_seconds {hour minute second micro : Nat} (hours : hour < 100)
    (minutes : minute < 100) (seconds : second < 100) (fraction : micro < 1000000)
    (after : List Char) :
    readClock (Text.padded 2 hour ++ ':' :: (Text.padded 2 minute ++ ':' ::
      secondsText second micro)) after =
      some (⟨hour, minute, second, micro⟩, peek after != '\x00') := by
  have minutes_left : Text.padded 2 minute ++ ':' :: secondsText second micro ≠ [] :=
    List.append_ne_nil_of_left_ne_nil (padded_ne_nil minute) _
  rw [readClock, readParts_colon hours (by decide) (fun _ => rfl) minutes_left,
    readParts_colon minutes (by simp) (fun _ => rfl) (secondsText_ne_nil second micro),
    readParts_seconds seconds fraction]
  rfl

theorem readClock_minutes {hour minute : Nat} (hours : hour < 100) (minutes : minute < 100)
    (after : List Char) :
    readClock (Text.padded 2 hour ++ ':' :: Text.padded 2 minute) after =
      some (⟨hour, minute, 0, 0⟩, peek after != '\x00') := by
  rw [readClock, readParts_colon hours (by decide) (fun _ => rfl) (padded_ne_nil minute),
    readParts_end minutes]
  rfl

theorem readClock_text {c : Clock} (valid : c.Valid) (after : List Char) :
    readClock c.text after = some (c, peek after != '\x00') := by
  obtain ⟨hours, minutes, seconds, fraction⟩ := valid
  have text : c.text = Text.padded 2 c.hour ++ ':' :: (Text.padded 2 c.minute ++ ':' ::
      secondsText c.second c.micro) := by
    simp only [Clock.text, secondsText, List.append_assoc, List.cons_append]
  rw [text]
  exact readClock_seconds (by omega) (by omega) (by omega) fraction after

def InClock (cs : List Char) : Prop :=
  ∀ c ∈ cs, startsZone c = false

theorem inClock_digits {cs : List Char} (digits : ∀ c ∈ cs, Text.isAsciiDigit c = true) :
    InClock cs := by
  intro c member
  have digit := digits c member
  cases starts : startsZone c with
  | false => rfl
  | true =>
    simp only [startsZone, Bool.or_eq_true, beq_iff_eq] at starts
    rcases starts with (rfl | rfl) | rfl <;> cases digit

theorem inClock_cons {c : Char} {cs : List Char} (first : startsZone c = false)
    (rest : InClock cs) : InClock (c :: cs) :=
  List.forall_mem_cons.mpr ⟨first, rest⟩

theorem inClock_append {cs ds : List Char} (first : InClock cs) (rest : InClock ds) :
    InClock (cs ++ ds) :=
  List.forall_mem_append.mpr ⟨first, rest⟩

theorem inClock_text (c : Clock) : InClock c.text := by
  have padded (width n : Nat) : InClock (Text.padded width n) :=
    inClock_digits (Text.isAsciiDigit_padded width n)
  have micros : InClock (if c.micro = 0 then [] else '.' :: Text.padded 6 c.micro) := by
    split
    · exact nofun
    · exact inClock_cons rfl (padded 6 _)
  have minutes := inClock_append (padded 2 c.hour) (inClock_cons (c := ':') rfl (padded 2 c.minute))
  have seconds := inClock_append minutes (inClock_cons (c := ':') rfl (padded 2 c.second))
  exact inClock_append seconds micros

def distance (s : Span) : Clock :=
  let seconds := s.micros.natAbs / 1000000
  ⟨seconds / 3600, seconds / 60 % 60, seconds % 60, s.micros.natAbs % 1000000⟩

theorem readClock_offset {s : Span} (inRange : Moment.offsetInRange s = true) :
    ∃ rest, Moment.offsetText s = (if s.micros < 0 then '-' else '+') :: rest ∧
      readClock rest [] = some (distance s, false) := by
  rw [Moment.offsetInRange, decide_eq_true_eq] at inRange
  have hours : s.micros.natAbs / 1000000 / 3600 < 100 := by omega
  have minutes : s.micros.natAbs / 1000000 / 60 % 60 < 100 := by omega
  have seconds : s.micros.natAbs / 1000000 % 60 < 100 := by omega
  have micros : s.micros.natAbs % 1000000 < 1000000 := Nat.mod_lt _ (by decide)
  have text : Moment.offsetText s = (if s.micros < 0 then '-' else '+') ::
      (Text.padded 2 (s.micros.natAbs / 1000000 / 3600) ++
        ':' :: Text.padded 2 (s.micros.natAbs / 1000000 / 60 % 60) ++
        (if s.micros.natAbs / 1000000 % 60 = 0 && s.micros.natAbs % 1000000 = 0 then []
          else ':' :: secondsText (s.micros.natAbs / 1000000 % 60)
            (s.micros.natAbs % 1000000))) := rfl
  refine ⟨_, text, ?_⟩
  split
  · next whole =>
    rw [Bool.and_eq_true, decide_eq_true_eq, decide_eq_true_eq] at whole
    rw [List.append_nil, readClock_minutes hours minutes [], distance, whole.1, whole.2]
    rfl
  · rw [List.append_assoc, List.cons_append]
    exact readClock_seconds hours minutes seconds micros []

theorem toMicros_distance (s : Span) : (distance s).toMicros = s.micros.natAbs := by
  simp only [distance, Clock.toMicros]
  omega

/-- A distance that can be written down: none at all, or a second at least. -/
def Marked (s : Span) : Prop :=
  s = .zero ∨ 1000000 ≤ s.micros.natAbs

theorem distanceOf_distance {s : Span} (marked : Marked s) :
    distanceOf (decide (s.micros < 0)) (distance s) = s := by
  obtain ⟨us⟩ := s
  rw [distanceOf, toMicros_distance]
  rcases marked with zero | far
  · cases zero
    rfl
  · rw [if_neg (Nat.not_lt.mpr far), Span.mk.injEq]
    dsimp only
    by_cases negative : us < 0
    · rw [decide_eq_true negative, if_pos rfl]
      omega
    · rw [decide_eq_false negative, if_neg Bool.false_ne_true]
      omega

theorem marked_distanceOf (negative : Bool) (c : Clock) : Marked (distanceOf negative c) := by
  rw [distanceOf]
  split
  · exact .inl rfl
  · next far =>
    refine .inr ?_
    cases negative <;> simp <;> omega

theorem takeWhile_inClock {cs : List Char} (inside : InClock cs) (zone : List Char)
    (outside : ∀ c ∈ zone.head?, startsZone c = true) :
    (cs ++ zone).takeWhile (!startsZone ·) = cs ∧
      (cs ++ zone).dropWhile (!startsZone ·) = zone := by
  have digits : ∀ c ∈ cs, (!startsZone c) = true := by
    intro c member
    rw [inside c member]
    rfl
  rw [List.takeWhile_append_of_pos digits, List.dropWhile_append_of_pos digits]
  cases zone with
  | nil => simp
  | cons c rest => simp [outside c rfl]

def zoneText : Option Span → List Char
  | none => []
  | some s => Moment.offsetText s

theorem readTime_text {c : Clock} (valid : c.Valid) {offset : Option Span}
    (inRange : ∀ s ∈ offset, Moment.offsetInRange s = true) (marked : ∀ s ∈ offset, Marked s) :
    readTime (c.text ++ zoneText offset) = some (c, offset) := by
  cases offset with
  | none =>
    have split := takeWhile_inClock (inClock_text c) [] nofun
    rw [readTime, zoneText, split.1, split.2, readClock_text valid]
    rfl
  | some s =>
    obtain ⟨rest, text, read⟩ := readClock_offset (inRange s rfl)
    have whole := distanceOf_distance (marked s rfl)
    have split := takeWhile_inClock (inClock_text c) (Moment.offsetText s) (by
      rw [text]
      intro c head
      cases head
      split <;> rfl)
    rw [readTime, zoneText, split.1, split.2, readClock_text valid, text]
    by_cases negative : s.micros < 0
    · rw [decide_eq_true negative] at whole
      rw [if_pos negative]
      simp [read, whole]
    · rw [decide_eq_false negative] at whole
      rw [if_neg negative]
      simp [read, whole]

theorem day_lt {d : Date} (valid : d.Valid) : d.day < 100 := by
  obtain ⟨_, _, _, _, _, days⟩ := valid
  have long : Date.daysInMonth d.year d.month ≤ 31 := by
    rw [Date.daysInMonth]
    split
    · split <;> decide
    · split <;> decide
  omega

theorem date_text (d : Date) : d.text =
    Text.padded 4 d.year ++ '-' :: (Text.padded 2 d.month ++ '-' :: Text.padded 2 d.day) := by
  simp only [Date.text, List.append_assoc, List.cons_append]

theorem peek_month {d : Date} (valid : d.Valid) (rest : List Char) :
    (peek (Text.padded 2 d.month ++ rest) == 'W') = false := by
  obtain ⟨_, _, _, months, _⟩ := valid
  obtain ⟨a, b, text, digit, _⟩ := two_digits (n := d.month) (by omega)
  rw [text, List.cons_append, beq_eq_false_iff_ne]
  rintro rfl
  cases digit

theorem readDate_text {d : Date} (valid : d.Valid) : readDate d.text = some d := by
  have day_bound := day_lt valid
  have week := peek_month valid ('-' :: Text.padded 2 d.day)
  obtain ⟨_, years, _, months, _⟩ := valid
  have year := readDigits_padded (w := 4) (n := d.year) (by decide) (by omega)
    ('-' :: (Text.padded 2 d.month ++ '-' :: Text.padded 2 d.day))
  have month := readDigits_padded (w := 2) (n := d.month) (by decide) (by omega)
    ('-' :: Text.padded 2 d.day)
  have day := readDigits_padded (w := 2) (n := d.day) (by decide) day_bound []
  rw [List.append_nil] at day
  have hyphen (cs : List Char) : (peek ('-' :: cs) == '-') = true := rfl
  have no_hyphen (cs : List Char) : (peek ('-' :: cs) != '-') = false := rfl
  rw [date_text, readDate, year]
  simp only [Option.bind_eq_bind, Option.bind_some, hyphen, no_hyphen, if_true, List.drop_one,
    List.tail_cons, week, Bool.false_eq_true, if_false, month, day, Bool.and_false,
    List.isEmpty_nil]

theorem length_date {d : Date} (valid : d.Valid) : d.text.length = 10 := by
  have day_bound := day_lt valid
  obtain ⟨_, years, _, months, _⟩ := valid
  have year : (Text.padded 4 d.year).length = 4 := Text.length_padded (by decide) (by omega)
  have month : (Text.padded 2 d.month).length = 2 := Text.length_padded (by decide) (by omega)
  have day : (Text.padded 2 d.day).length = 2 := Text.length_padded (by decide) day_bound
  simp only [date_text, List.length_append, List.length_cons, year, month, day]

theorem dateLength_text {d : Date} (valid : d.Valid) (rest : List Char) :
    dateLength (d.text ++ rest) = 10 := by
  have size := length_date valid
  have week := peek_month valid ('-' :: Text.padded 2 d.day ++ rest)
  obtain ⟨_, years, _⟩ := valid
  have year : (Text.padded 4 d.year).length = 4 := Text.length_padded (by decide) (by omega)
  have text : d.text ++ rest = Text.padded 4 d.year ++
      '-' :: (Text.padded 2 d.month ++ ('-' :: Text.padded 2 d.day ++ rest)) := by
    simp only [date_text, List.append_assoc, List.cons_append]
  have long : ¬ (d.text ++ rest).length = 7 := by
    rw [List.length_append, size]
    omega
  have hyphen : (d.text ++ rest).drop 4 =
      '-' :: (Text.padded 2 d.month ++ ('-' :: Text.padded 2 d.day ++ rest)) := by
    rw [text, List.drop_left' year]
  have month : (d.text ++ rest).drop 5 =
      Text.padded 2 d.month ++ ('-' :: Text.padded 2 d.day ++ rest) := by
    rw [← List.drop_drop (i := 1) (j := 4), hyphen]
    rfl
  simp only [dateLength, if_neg long, hyphen, month, week]
  rfl

/-- A moment that some text writes: one of the calendar, whose distance can be
written down. -/
structure Legible (m : Moment) : Prop where
  valid : m.Valid
  marked : ∀ s ∈ m.offset, Marked s

theorem legible_ofMicros {us : Int} (valid : (Moment.ofMicros us).Valid) :
    Legible (Moment.ofMicros us) := by
  refine ⟨valid, ?_⟩
  rintro s ⟨⟩
  exact .inl rfl

theorem readMoment_chars {m : Moment} (legible : Legible m) : readMoment m.chars = some m := by
  obtain ⟨⟨date, clock, inRange⟩, marked⟩ := legible
  have size := length_date date
  have text : m.chars = m.date.text ++ 'T' :: (m.clock.text ++ zoneText m.offset) := by
    cases offset : m.offset with
    | none => simp [Moment.chars, zoneText, offset]
    | some s => simp [Moment.chars, zoneText, offset]
  rw [readMoment, text, dateLength_text date, List.take_left' size, List.drop_left' size]
  simp only [readDate_text date, Option.bind_eq_bind, Option.bind_some,
    readTime_text clock inRange marked]
  rfl

theorem date_check {d : Date} (valid : d.Valid) : d.check = .ok d := by
  obtain ⟨year, years, month, months, day, days⟩ := valid
  have year_fits : ¬ (decide (d.year < 1) || decide (9999 < d.year)) = true := by
    simp only [Bool.or_eq_true, decide_eq_true_eq]
    omega
  have month_fits : ¬ (decide (d.month < 1) || decide (12 < d.month)) = true := by
    simp only [Bool.or_eq_true, decide_eq_true_eq]
    omega
  have day_fits :
      ¬ (decide (d.day < 1) || decide (Date.daysInMonth d.year d.month < d.day)) = true := by
    simp only [Bool.or_eq_true, decide_eq_true_eq]
    omega
  rw [Date.check, if_neg year_fits, if_neg month_fits, if_neg day_fits]

theorem clock_check {c : Clock} (valid : c.Valid) : c.check = .ok c := by
  obtain ⟨hours, minutes, seconds, micros⟩ := valid
  rw [Clock.check, if_neg (Nat.not_le.mpr hours), if_neg (Nat.not_le.mpr minutes),
    if_neg (Nat.not_le.mpr seconds), if_neg (Nat.not_le.mpr micros)]

theorem read_text {m : Moment} (legible : Legible m) : read m.text = .ok m := by
  have parts := readMoment_chars legible
  obtain ⟨date, clock, inRange⟩ := legible.valid
  have accepted : m.offset.filter (!Moment.offsetInRange ·) = none := by
    rw [Option.filter_eq_none_iff]
    intro s offset
    rw [inRange s offset]
    exact Bool.false_ne_true
  rw [read, Moment.text, Text.shown_ofString, String.toList_ofList, parts]
  simp only [accepted, date_check date, clock_check clock]

section Read

theorem valid_of_date_check {d checked : Date} (passed : d.check = .ok checked) : d.Valid := by
  rw [Date.check] at passed
  split at passed
  · cases passed
  next years =>
  split at passed
  · cases passed
  next months =>
  split at passed
  · cases passed
  next days =>
  simp only [Bool.or_eq_true, decide_eq_true_eq, not_or, Nat.not_lt] at years months days
  exact ⟨years.1, years.2, months.1, months.2, days.1, days.2⟩

theorem valid_of_clock_check {c checked : Clock} (passed : c.check = .ok checked) : c.Valid := by
  rw [Clock.check] at passed
  split at passed
  · cases passed
  next hours =>
  split at passed
  · cases passed
  next minutes =>
  split at passed
  · cases passed
  next seconds =>
  split at passed
  · cases passed
  next micros =>
  exact ⟨Nat.not_le.mp hours, Nat.not_le.mp minutes, Nat.not_le.mp seconds, Nat.not_le.mp micros⟩

theorem marked_readTime {cs : List Char} {c : Clock} {offset : Option Span}
    (found : readTime cs = some (c, offset)) : ∀ s ∈ offset, Marked s := by
  rw [readTime] at found
  obtain ⟨⟨clock, more⟩, -, found⟩ := Option.bind_eq_some_iff.mp found
  dsimp only at found
  split at found
  · split at found
    · cases found
    · cases found
      nofun
  · split at found
    · cases found
    · cases found
      rintro s ⟨⟩
      exact .inl rfl
  · obtain ⟨⟨away, more⟩, -, found⟩ := Option.bind_eq_some_iff.mp found
    dsimp only at found
    split at found
    · cases found
    · cases found
      rintro s ⟨⟩
      exact marked_distanceOf _ away

theorem marked_readMoment {cs : List Char} {m : Moment} (found : readMoment cs = some m) :
    ∀ s ∈ m.offset, Marked s := by
  rw [readMoment] at found
  obtain ⟨date, -, found⟩ := Option.bind_eq_some_iff.mp found
  dsimp only at found
  split at found
  · cases found
    nofun
  · obtain ⟨⟨clock, offset⟩, time, found⟩ := Option.bind_eq_some_iff.mp found
    cases found
    exact marked_readTime time

theorem legible_of_read {text : Text} {m : Moment} (found : read text = .ok m) : Legible m := by
  rw [read] at found
  split at found
  · cases found
  next whole =>
  split at found
  · cases found
  next near =>
  split at found
  · cases found
  next date =>
  split at found
  · cases found
  next clock =>
  cases found
  refine ⟨⟨valid_of_date_check date, valid_of_clock_check clock, fun s offset => ?_⟩,
    marked_readMoment whole⟩
  have inside := Option.filter_eq_none_iff.mp near s offset
  simpa using inside

theorem legible_iff {m : Moment} : Legible m ↔ ∃ text, read text = .ok m :=
  ⟨fun legible => ⟨m.text, read_text legible⟩, fun ⟨_, found⟩ => legible_of_read found⟩

end Read

end SecretStore.Stamp
