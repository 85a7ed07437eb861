import SecretStore.Json.Encoding
import SecretStore.Proofs.Json.Value
import SecretStore.Proofs.Text.Utf8

/-!
JSON text in bytes. The text of a value is printable ASCII, so its bytes name
no other encoding than UTF-8, and they are read back as they were written.
-/

namespace SecretStore

def IsVisible (c : Char) : Prop :=
  0x20 ≤ c.toNat ∧ c.toNat < 0x7f

instance (c : Char) : Decidable (IsVisible c) :=
  inferInstanceAs (Decidable (_ ∧ _))

theorem isVisible_of_all {cs : List Char} (h : cs.all (fun c => decide (IsVisible c)) = true) :
    ∀ c ∈ cs, IsVisible c := by
  intro c member
  exact of_decide_eq_true (List.all_eq_true.mp h c member)

namespace Json

theorem visible_hexDigits {width n : Nat} : ∀ c ∈ Text.hexDigits width n, IsVisible c := by
  have digit : ∀ d < 16, IsVisible (Text.hexDigit d) := by decide
  intro c member
  obtain ⟨d, small, rfl⟩ := Text.mem_hexDigits member
  exact digit d small

theorem visible_escapeChar (c : Char) : ∀ d ∈ escapeChar c, IsVisible d := by
  rw [escapeChar]
  split
  · exact isVisible_of_all rfl
  split
  · exact isVisible_of_all rfl
  split
  · exact isVisible_of_all rfl
  split
  · exact isVisible_of_all rfl
  split
  · exact isVisible_of_all rfl
  split
  · exact isVisible_of_all rfl
  split
  · exact isVisible_of_all rfl
  split
  · next shown =>
    rw [Bool.and_eq_true, decide_eq_true_eq, decide_eq_true_eq, Char.le_def, Char.le_def,
      UInt32.le_iff_toNat_le, UInt32.le_iff_toNat_le] at shown
    intro d member
    rw [List.mem_singleton.mp member]
    exact ⟨shown.1, Nat.lt_succ_of_le shown.2⟩
  · intro d member
    obtain ⟨n, _, member⟩ := List.mem_flatMap.mp member
    rcases List.mem_cons.mp member with rfl | member
    · decide
    rcases List.mem_cons.mp member with rfl | member
    · decide
    · exact visible_hexDigits d member

theorem visible_escapePoint (p : CodePoint) : ∀ d ∈ escapePoint p, IsVisible d := by
  cases p with
  | char c => exact visible_escapeChar c
  | surrogate n =>
    intro d member
    rcases List.mem_cons.mp member with rfl | member
    · decide
    rcases List.mem_cons.mp member with rfl | member
    · decide
    · exact visible_hexDigits d member

theorem visible_renderString (s : Text) : ∀ d ∈ renderString s, IsVisible d := by
  intro d member
  simp only [renderString, List.cons_append, List.mem_cons, List.mem_append, List.mem_flatMap,
    List.not_mem_nil, or_false] at member
  rcases member with rfl | ⟨c, _, member⟩ | rfl
  · decide
  · exact visible_escapePoint c d member
  · decide

theorem visible_decimal (n : Nat) : ∀ d ∈ Text.decimal n, IsVisible d := by
  intro d member
  have digit := Text.isAsciiDigit_decimal n d member
  rw [Text.isAsciiDigit, Bool.and_eq_true, decide_eq_true_eq, decide_eq_true_eq, Char.le_def,
    Char.le_def, UInt32.le_iff_toNat_le, UInt32.le_iff_toNat_le] at digit
  exact ⟨Nat.le_trans (by decide) digit.1, Nat.lt_of_le_of_lt digit.2 (by decide)⟩

theorem visible_renderInt (n : Int) : ∀ d ∈ renderInt n, IsVisible d := by
  rw [renderInt]
  split
  · intro d member
    rcases List.mem_cons.mp member with rfl | member
    · decide
    · exact visible_decimal n.natAbs d member
  · exact visible_decimal n.natAbs

end Json

namespace Text.Utf8

def asciiBytes (cs : List Char) : Bytes :=
  cs.map fun c => UInt8.ofNat c.toNat

theorem encodeChars_ascii {cs : List Char} (h : ∀ c ∈ cs, IsVisible c) :
    encodeChars cs = asciiBytes cs := by
  induction cs with
  | nil => rfl
  | cons c cs ih =>
    have ascii : c.toNat < 0x80 := Nat.lt_trans (h c (List.mem_cons_self ..)).2 (by decide)
    rw [encodeChars, List.flatMap_cons, encodeChar, if_pos ascii]
    exact congrArg (UInt8.ofNat c.toNat :: ·)
      (ih fun d member => h d (List.mem_cons_of_mem _ member))

theorem toNat_asciiByte {c : Char} (h : IsVisible c) : (UInt8.ofNat c.toNat).toNat = c.toNat :=
  UInt8.toNat_ofNat_of_lt' (Nat.lt_trans h.2 (by decide))

theorem asciiBytes_visible {cs : List Char} (h : ∀ c ∈ cs, IsVisible c) :
    ∀ b ∈ asciiBytes cs, 0x20 ≤ b.toNat ∧ b.toNat < 0x7f := by
  intro b member
  obtain ⟨c, inside, rfl⟩ := List.mem_map.mp member
  rw [toNat_asciiByte (h c inside)]
  exact h c inside

end Text.Utf8

namespace Json

theorem visible_ne {bs : Bytes} (h : ∀ b ∈ bs, 0x20 ≤ b.toNat ∧ b.toNat < 0x7f) {b k : UInt8}
    (member : b ∈ bs) (other : k.toNat < 0x20 ∨ 0x7f ≤ k.toNat) : b ≠ k := by
  rintro rfl
  have bounds := h b member
  omega

theorem first_mark : Encoding.marks.all (fun mark =>
    match mark.1 with
    | [] => false
    | k :: _ => decide (k.toNat < 0x20) || decide (0x7f ≤ k.toNat)) = true := rfl

theorem unmarked_visible {bs : Bytes} (h : ∀ b ∈ bs, 0x20 ≤ b.toNat ∧ b.toNat < 0x7f) :
    Encoding.unmarked bs = .utf8 0 := by
  have nonzero {b : UInt8} (member : b ∈ bs) : (b == 0) = false :=
    beq_eq_false_iff_ne.mpr (visible_ne h member (.inl (by decide)))
  rw [Encoding.unmarked.eq_def]
  split
  · next a b c d rest =>
    have first : (a == 0) = false := nonzero (by simp)
    have second : (b == 0) = false := nonzero (by simp)
    rw [first, second]
    rfl
  · next a b =>
    have first : (a == 0) = false := nonzero (by simp)
    have second : (b == 0) = false := nonzero (by simp)
    rw [first, second]
    rfl
  · rfl

theorem detect_visible {bs : Bytes} (h : ∀ b ∈ bs, 0x20 ≤ b.toNat ∧ b.toNat < 0x7f) :
    Encoding.detect bs = .utf8 0 := by
  have none_marked : Encoding.marks.find? (fun mark => mark.1.isPrefixOf bs) = none := by
    rw [List.find?_eq_none]
    rintro ⟨mark, encoding⟩ member begins
    have outside := List.all_eq_true.mp first_mark _ member
    obtain ⟨rest, rfl⟩ := List.isPrefixOf_iff_prefix.mp begins
    cases mark with
    | nil => cases outside
    | cons k others =>
      simp only [Bool.or_eq_true, decide_eq_true_eq] at outside
      exact visible_ne h (List.mem_cons_self ..) outside rfl
  rw [Encoding.detect, none_marked]
  exact unmarked_visible h

mutual

theorem visible_render : ∀ (j : Json), j.IsPlain → ∀ c ∈ render j, IsVisible c
  | .null, _ => isVisible_of_all rfl
  | .bool true, _ => isVisible_of_all rfl
  | .bool false, _ => isVisible_of_all rfl
  | .int n, _ => visible_renderInt n
  | .str s, _ => visible_renderString s
  | .arr items, plain => by
    have inside := visible_renderItems items plain
    intro c member
    simp only [render, List.cons_append, List.mem_cons, List.mem_append, List.not_mem_nil,
      or_false] at member
    rcases member with rfl | member | rfl
    · decide
    · exact inside c member
    · decide
  | .obj fields, plain => by
    have inside := visible_renderFields fields plain.2
    intro c member
    simp only [render, List.cons_append, List.mem_cons, List.mem_append, List.not_mem_nil,
      or_false] at member
    rcases member with rfl | member | rfl
    · decide
    · exact inside c member
    · decide

theorem visible_renderItems : ∀ (items : List Json), ArePlain items →
    ∀ c ∈ renderItems items, IsVisible c
  | [], _ => nofun
  | [item], plain => visible_render item plain.1
  | item :: next :: items, plain => by
    intro c member
    simp only [renderItems_cons, List.mem_append, List.mem_cons] at member
    rcases member with member | rfl | rfl | member
    · exact visible_render item plain.1 c member
    · decide
    · decide
    · exact visible_renderItems (next :: items) plain.2 c member

theorem visible_renderFields : ∀ (fields : List (Text × Json)), FieldsPlain fields →
    ∀ c ∈ renderFields fields, IsVisible c
  | [], _ => nofun
  | [(name, value)], plain => by
    intro c member
    simp only [renderFields, List.mem_append, List.mem_cons] at member
    rcases member with member | rfl | rfl | member
    · exact visible_renderString name c member
    · decide
    · decide
    · exact visible_render value plain.2.1 c member
  | (name, value) :: next :: fields, plain => by
    intro c member
    simp only [renderFields_cons, List.mem_append, List.mem_cons] at member
    rcases member with (member | rfl | rfl | member) | rfl | rfl | member
    · exact visible_renderString name c member
    · decide
    · decide
    · exact visible_render value plain.2.1 c member
    · decide
    · decide
    · exact visible_renderFields (next :: fields) plain.2.2 c member

end

theorem ofBytes_render {levels : Nat} {j : Json} (plain : j.IsPlain) (fits : j.depth ≤ levels) :
    ofBytes levels (Text.Utf8.encodeChars (render j)) = .ok j.joined := by
  have visible := visible_render j plain
  have bytes := Text.Utf8.asciiBytes_visible visible
  rw [← Text.Utf8.encodeChars_ascii visible] at bytes
  rw [ofBytes, decodeText, detect_visible bytes]
  simp only [List.drop_zero, Text.Utf8.decodePass_encodeChars, read_render plain fits]

end Json

end SecretStore
