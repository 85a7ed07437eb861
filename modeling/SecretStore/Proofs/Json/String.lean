import Mathlib.Data.List.Chain
import SecretStore.Json.Reader
import SecretStore.Json.Writer
import SecretStore.Proofs.Text.Hex
import SecretStore.Proofs.Text.Unencodable

/-!
Strings survive JSON text, up to surrogates. A code point is written as itself, as
a short escape or as the units of UTF-16, and the reader, which looks behind every
unit for a second one, gives it back. Two halves of a surrogate pair that stand
side by side are read as the character that they make.
-/

namespace SecretStore

/-- Nowhere does the first half of a surrogate pair stand right before a second half. -/
def Text.Unpaired (s : Text) : Prop :=
  s.points.IsChain fun p q => ¬ (p.isHigh ∧ q.isLow)

/-- The code points with the two halves of a pair, where they stand side by side, joined to
the character that they make. -/
def joinPoints : List CodePoint → List CodePoint
  | p :: q :: rest =>
    if p.isHigh && q.isLow then
      .char (Text.Utf16.joinSurrogates p.toNat q.toNat) :: joinPoints rest
    else p :: joinPoints (q :: rest)
  | ps => ps

theorem joinPoints_of_apart {ps : List CodePoint}
    (apart : ps.IsChain fun p q => ¬ (p.isHigh ∧ q.isLow)) : joinPoints ps = ps := by
  fun_induction joinPoints ps with
  | case1 p q rest pair ih =>
    exact absurd (Bool.and_eq_true_iff.mp pair) (List.isChain_cons_cons.mp apart).1
  | case2 p q rest other ih => rw [ih (List.isChain_cons_cons.mp apart).2]
  | case3 ps short => rfl

/-- What the reader of a file makes of a text. -/
def Text.joined (s : Text) : Text :=
  ⟨joinPoints s.points⟩

theorem Text.joined_of_unpaired {s : Text} (apart : s.Unpaired) : s.joined = s :=
  Text.ext (joinPoints_of_apart apart)

theorem head_joinPoints {p q : CodePoint} {ps : List CodePoint}
    (first : q ∈ (joinPoints (p :: ps)).head?) : q = p ∨ ∃ c, q = .char c := by
  cases ps with
  | nil => exact .inl (Option.some.inj first).symm
  | cons next rest =>
    rw [joinPoints] at first
    split at first
    · exact .inr ⟨_, (Option.some.inj first).symm⟩
    · exact .inl (Option.some.inj first).symm

theorem apart_joinPoints (ps : List CodePoint) :
    (joinPoints ps).IsChain fun p q => ¬ (p.isHigh ∧ q.isLow) := by
  fun_induction joinPoints ps with
  | case1 p q rest pair ih =>
    exact List.isChain_cons.mpr ⟨fun _ _ both => Bool.false_ne_true both.1, ih⟩
  | case2 p q rest other ih =>
    refine List.isChain_cons.mpr ⟨fun y first both => ?_, ih⟩
    rcases head_joinPoints first with rfl | ⟨c, rfl⟩
    · exact other (Bool.and_eq_true_iff.mpr both)
    · exact Bool.false_ne_true both.2
  | case3 ps short =>
    cases ps with
    | nil => exact List.isChain_nil
    | cons p ps =>
      cases ps with
      | nil => exact List.isChain_singleton p
      | cons q ps => exact (short p q ps rfl).elim

theorem Text.unpaired_joined (s : Text) : s.joined.Unpaired :=
  apart_joinPoints s.points

theorem Text.unpaired_ofChars (cs : List Char) : (Text.ofChars cs).Unpaired := by
  rw [Text.Unpaired, Text.ofChars]
  induction cs with
  | nil => exact List.isChain_nil
  | cons c cs ih => exact List.isChain_cons.mpr ⟨fun _ _ both => Bool.false_ne_true both.1, ih⟩

@[simp] theorem Text.unpaired_ofString (s : String) : (Text.ofString s).Unpaired :=
  Text.unpaired_ofChars s.toList

theorem Text.IsWhole.unpaired {t : Text} (whole : t.IsWhole) : t.Unpaired := by
  rw [← whole]
  exact Text.unpaired_ofChars _

namespace Json

theorem unit_hexDigits {n : Nat} (h : n < 0x10000) :
    ∃ a b c d, Text.hexDigits 4 n = [a, b, c, d] ∧ unit? a b c d = some n := by
  refine ⟨_, _, _, _, rfl, ?_⟩
  simp only [unit?, Text.hexValue_hexDigit _ (Nat.mod_lt _ (by decide : 0 < 16)),
    Option.bind_eq_bind, Option.bind_some, Option.pure_def, Option.some.injEq,
    Nat.shiftRight_eq_div_pow]
  omega

/-- What may stand behind a unit: something does, and an escaped unit is well formed and is
not the other half of a pair. -/
def Follows (unit : Nat) (rest : List CodePoint) : Prop :=
  rest ≠ [] ∧ ∀ e f g h tail, rest = .char '\\' :: .char 'u' :: e :: f :: g :: h :: tail →
    ∃ low, escapedUnit? e f g h = some low ∧
      (Text.Utf16.isHighSurrogate unit && Text.Utf16.isLowSurrogate low) = false

def putPoint (p : CodePoint) (read : Reading (List CodePoint × List CodePoint)) :
    Reading (List CodePoint × List CodePoint) :=
  read.map fun (ps, rest) => (p :: ps, rest)

theorem unitEscape_points {n : Nat} (bound : n < 0x10000) :
    ∃ a b c d, (unitEscape n).map CodePoint.char =
        [.char '\\', .char 'u', .char a, .char b, .char c, .char d] ∧
      unit? a b c d = some n := by
  obtain ⟨a, b, c, d, digits, value⟩ := unit_hexDigits bound
  refine ⟨a, b, c, d, ?_, value⟩
  rw [unitEscape, digits]
  rfl

theorem readString_unit (opening : List CodePoint) {n : Nat} (bound : n < 0x10000)
    {rest : List CodePoint} (follows : Follows n rest) :
    readString opening ((unitEscape n).map .char ++ rest) =
      putPoint (.ofNat n) (readString opening rest) := by
  obtain ⟨a, b, c, d, escape, value⟩ := unitEscape_points bound
  obtain ⟨nonempty, escaped⟩ := follows
  rw [escape]
  simp only [List.cons_append, List.nil_append]
  rw [readString.eq_def]
  simp only [value]
  split
  · next high e f g h next rest' same =>
    cases same
    obtain ⟨low, low_value, apart⟩ := escaped e f g h (next :: rest') rfl
    simp only [low_value, apart, Bool.false_eq_true, if_false]
    rfl
  · next unit next rest' _ same =>
    cases same
    rfl
  · next none_fits =>
    obtain ⟨next, rest', same⟩ := List.exists_cons_of_ne_nil nonempty
    exact (none_fits n next rest' rfl same).elim

theorem readString_pair (opening : List CodePoint) {high low : Nat}
    (highs : Text.Utf16.isHighSurrogate high = true) (lows : Text.Utf16.isLowSurrogate low = true)
    {rest : List CodePoint} (nonempty : rest ≠ []) :
    readString opening ((unitEscape high).map .char ++ ((unitEscape low).map .char ++ rest)) =
      putPoint (.char (Text.Utf16.joinSurrogates high low)) (readString opening rest) := by
  have high_bound : high < 0x10000 := by
    simp only [Text.Utf16.isHighSurrogate, Bool.and_eq_true, decide_eq_true_eq] at highs
    omega
  have low_bound : low < 0x10000 := by
    simp only [Text.Utf16.isLowSurrogate, Bool.and_eq_true, decide_eq_true_eq] at lows
    omega
  obtain ⟨a, b, c, d, high_escape, value⟩ := unitEscape_points high_bound
  obtain ⟨e, f, g, h, low_escape, low_value⟩ := unitEscape_points low_bound
  obtain ⟨next, rest', rfl⟩ := List.exists_cons_of_ne_nil nonempty
  have low_unit : escapedUnit? (.char e) (.char f) (.char g) (.char h) = some low := low_value
  rw [high_escape, low_escape]
  simp only [List.cons_append, List.nil_append]
  rw [readString.eq_def]
  simp only [value, low_unit, highs, lows, Bool.and_self, if_true]
  rfl

theorem readString_simple (opening : List CodePoint) {letter c : Char} (other : letter ≠ 'u')
    (simple : simpleEscape? letter = some c) (rest : List CodePoint) :
    readString opening (.char '\\' :: .char letter :: rest) =
      putPoint (.char c) (readString opening rest) := by
  simp [readString, other, CodePoint.char?, simple]
  rfl

theorem readString_plain (opening : List CodePoint) {c : Char} (quote : c ≠ '"') (slash : c ≠ '\\')
    (visible : ¬ c.toNat < 0x20) (rest : List CodePoint) :
    readString opening (.char c :: rest) = putPoint (.char c) (readString opening rest) := by
  simp [readString, quote, slash, CodePoint.toNat, visible]
  rfl

inductive Written (p : CodePoint) : List Char → Prop
  | plain {c : Char} (quote : c ≠ '"') (slash : c ≠ '\\') (visible : ¬ c.toNat < 0x20)
      (same : .char c = p) : Written p [c]
  | simple {letter c : Char} (other : letter ≠ 'u') (simple : simpleEscape? letter = some c)
      (same : .char c = p) : Written p ['\\', letter]
  | unit {n : Nat} (bound : n < 0x10000) (same : .ofNat n = p) : Written p (unitEscape n)
  | pair {high low : Nat} (highs : Text.Utf16.isHighSurrogate high = true)
      (lows : Text.Utf16.isLowSurrogate low = true)
      (same : .char (Text.Utf16.joinSurrogates high low) = p) :
      Written p (unitEscape high ++ unitEscape low)

theorem valid_toNat (c : Char) : c.toNat < 0xd800 ∨ 0xdfff < c.toNat ∧ c.toNat < 0x110000 :=
  c.valid

theorem written_units (c : Char) : Written (.char c) ((Text.Utf16.units c).flatMap unitEscape) := by
  have valid := valid_toNat c
  rw [Text.Utf16.units]
  by_cases basic : c.toNat < 0x10000
  · rw [if_pos basic, List.flatMap_singleton]
    exact .unit basic (CodePoint.ofNat_toNat (.char c))
  · rw [if_neg basic]
    have joined : Text.Utf16.joinSurrogates (0xd800 + (c.toNat - 0x10000) / 0x400)
        (0xdc00 + (c.toNat - 0x10000) % 0x400) = c := by
      have sum : 0x10000 + (0xd800 + (c.toNat - 0x10000) / 0x400 - 0xd800) * 0x400 +
          (0xdc00 + (c.toNat - 0x10000) % 0x400 - 0xdc00) = c.toNat := by omega
      rw [Text.Utf16.joinSurrogates, sum, Char.ofNat_toNat]
    have text : Written (.char c) (unitEscape (0xd800 + (c.toNat - 0x10000) / 0x400) ++
        unitEscape (0xdc00 + (c.toNat - 0x10000) % 0x400)) := by
      refine .pair ?_ ?_ (congrArg CodePoint.char joined)
      · simp only [Text.Utf16.isHighSurrogate, Bool.and_eq_true, decide_eq_true_eq]
        omega
      · simp only [Text.Utf16.isLowSurrogate, Bool.and_eq_true, decide_eq_true_eq]
        omega
    simpa only [List.flatMap_cons, List.flatMap_nil, List.append_nil] using text

theorem written_escapeChar (c : Char) : Written (.char c) (escapeChar c) := by
  rw [escapeChar]
  split
  · next same => exact .simple (by decide) (by rw [eq_of_beq same]; rfl) rfl
  split
  · next same => exact .simple (by decide) (by rw [eq_of_beq same]; rfl) rfl
  split
  · next same => exact .simple (by decide) (by rw [eq_of_beq same]; rfl) rfl
  split
  · next same => exact .simple (by decide) (by rw [eq_of_beq same]; rfl) rfl
  split
  · next same => exact .simple (by decide) (by rw [eq_of_beq same]; rfl) rfl
  split
  · next same => exact .simple (by decide) (by rw [eq_of_beq same]; rfl) rfl
  split
  · next same => exact .simple (by decide) (by rw [eq_of_beq same]; rfl) rfl
  split
  · next quote slash _ _ _ _ _ visible =>
    rw [Bool.and_eq_true, decide_eq_true_eq, Char.le_def, UInt32.le_iff_toNat_le] at visible
    exact .plain (by simpa using quote) (by simpa using slash) (Nat.not_lt.mpr visible.1) rfl
  · exact written_units c

theorem written_escapePoint (p : CodePoint) : Written p (escapePoint p) := by
  cases p with
  | char c => exact written_escapeChar c
  | surrogate n =>
    exact .unit (by omega) (CodePoint.ofNat_toNat (.surrogate n))

theorem isHigh_ofNat (n : Nat) : (CodePoint.ofNat n).isHigh = Text.Utf16.isHighSurrogate n := by
  rw [CodePoint.ofNat, Text.Utf16.isHighSurrogate]
  split
  · simp only [CodePoint.isHigh]
    grind
  · simp only [CodePoint.isHigh]
    grind

theorem isLow_ofNat (n : Nat) : (CodePoint.ofNat n).isLow = Text.Utf16.isLowSurrogate n := by
  rw [CodePoint.ofNat, Text.Utf16.isLowSurrogate]
  split
  · simp only [CodePoint.isLow]
    grind
  · simp only [CodePoint.isLow]
    grind

theorem follows_string {n : Nat} {ps : List CodePoint} (tail : List CodePoint)
    (apart : ∀ q ∈ ps.head?, ¬ ((CodePoint.ofNat n).isHigh ∧ q.isLow)) :
    Follows n ((ps.flatMap escapePoint).map .char ++ .char '"' :: tail) := by
  refine ⟨by simp, fun e f g h rest same => ?_⟩
  have escaped {m : Nat} (bound : m < 0x10000) {more : List CodePoint}
      (eq : (unitEscape m).map CodePoint.char ++ more =
        .char '\\' :: .char 'u' :: e :: f :: g :: h :: rest) :
      escapedUnit? e f g h = some m := by
    obtain ⟨a, b, c, d, escape, value⟩ := unitEscape_points bound
    rw [escape] at eq
    cases eq
    exact value
  -- Only what begins with an escaped unit can be taken for the other half.
  cases ps with
  | nil => cases same
  | cons p ps =>
    have split := apart p rfl
    rw [isHigh_ofNat] at split
    rw [List.flatMap_cons, List.map_append, List.append_assoc] at same
    have written := written_escapePoint p
    generalize escapePoint p = text at written same
    cases written with
    | plain quote slash visible _ =>
      exact absurd (CodePoint.char.inj (List.cons.inj same).1) slash
    | simple other simple _ =>
      exact absurd (CodePoint.char.inj (List.cons.inj (List.cons.inj same).2).1) other
    | unit bound value =>
      refine ⟨_, escaped bound same, ?_⟩
      rw [← value, isLow_ofNat] at split
      exact Bool.eq_false_iff.mpr fun both => split (Bool.and_eq_true_iff.mp both)
    | pair highs lows value =>
      rw [List.map_append, List.append_assoc] at same
      simp only [Text.Utf16.isHighSurrogate, Bool.and_eq_true, decide_eq_true_eq] at highs
      refine ⟨_, escaped (by omega) same, ?_⟩
      simp only [Text.Utf16.isLowSurrogate, Bool.and_eq_false_iff, decide_eq_false_iff_not]
      omega

theorem readString_escapePoint (opening tail : List CodePoint) {p : CodePoint}
    {ps : List CodePoint} (apart : ∀ q ∈ ps.head?, ¬ (p.isHigh ∧ q.isLow)) :
    readString opening (((p :: ps).flatMap escapePoint).map .char ++ .char '"' :: tail) =
      putPoint p (readString opening
        ((ps.flatMap escapePoint).map .char ++ .char '"' :: tail)) := by
  rw [List.flatMap_cons, List.map_append, List.append_assoc]
  have written := written_escapePoint p
  generalize escapePoint p = text at written
  cases written with
  | plain quote slash visible same => exact same ▸ readString_plain opening quote slash visible _
  | simple other simple same => exact same ▸ readString_simple opening other simple _
  | unit bound same =>
    subst same
    exact readString_unit opening bound (follows_string tail apart)
  | pair highs lows same =>
    rw [List.map_append, List.append_assoc, readString_pair opening highs lows (by simp), same]

theorem readString_halves (opening tail : List CodePoint) {p q : CodePoint}
    (pair : (p.isHigh && q.isLow) = true) (ps : List CodePoint) :
    readString opening (((p :: q :: ps).flatMap escapePoint).map .char ++ .char '"' :: tail) =
      putPoint (.char (Text.Utf16.joinSurrogates p.toNat q.toNat)) (readString opening
        ((ps.flatMap escapePoint).map .char ++ .char '"' :: tail)) := by
  obtain ⟨highs, lows⟩ := Bool.and_eq_true_iff.mp pair
  rw [← CodePoint.ofNat_toNat p, isHigh_ofNat] at highs
  rw [← CodePoint.ofNat_toNat q, isLow_ofNat] at lows
  cases p with
  | char c => exact absurd pair Bool.false_ne_true
  | surrogate m =>
    cases q with
    | char c => simp [CodePoint.isLow] at pair
    | surrogate n =>
      rw [List.flatMap_cons, List.flatMap_cons, List.map_append, List.map_append,
        List.append_assoc, List.append_assoc]
      exact readString_pair opening highs lows (by simp)

theorem readString_written (opening tail : List CodePoint) (s : Text) :
    readString opening ((s.points.flatMap escapePoint).map .char ++ .char '"' :: tail) =
      .ok (s.joined.points, tail) := by
  rw [Text.joined]
  fun_induction joinPoints s.points with
  | case1 p q rest pair ih =>
    rw [readString_halves opening tail pair, ih]
    rfl
  | case2 p q rest other ih =>
    have apart : ∀ y ∈ (q :: rest).head?, ¬ (p.isHigh ∧ y.isLow) := by
      rintro y ⟨⟩ both
      exact other (Bool.and_eq_true_iff.mpr both)
    rw [readString_escapePoint opening tail apart, ih]
    rfl
  | case3 ps short =>
    cases ps with
    | nil => simp [readString]
    | cons p ps =>
      cases ps with
      | nil =>
        rw [readString_escapePoint opening tail (by simp)]
        simp [readString, putPoint, Except.map]
      | cons q ps => exact (short p q ps rfl).elim

end Json

end SecretStore
