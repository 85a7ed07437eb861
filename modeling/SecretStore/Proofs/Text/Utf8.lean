import SecretStore.Text.Utf8

/-!
UTF-8 undone. The bytes of a character start it, keep to the range that its first byte
sets, and end it, so text is read back from its bytes without a fault.
-/

namespace SecretStore.Text.Utf8

theorem toNat_byte {n : Nat} (small : n < 256) : (UInt8.ofNat n).toNat = n :=
  UInt8.toNat_ofNat_of_lt' small

theorem pieces_whole {n : Nat} {c : Char} (small : n < 256) (starts : start n = .whole c)
    (rest : Bytes) : pieces none (UInt8.ofNat n :: rest) = .char c :: pieces none rest := by
  simp only [pieces, toNat_byte small, starts]

theorem pieces_opens {n : Nat} {p : Unfinished} (small : n < 256) (starts : start n = .opens p)
    (rest : Bytes) : pieces none (UInt8.ofNat n :: rest) = pieces (some p) rest := by
  simp only [pieces, toNat_byte small, starts]

theorem pieces_more {width bits owed low high n : Nat} (small : n < 64) (above : low ≤ 0x80 + n)
    (below : 0x80 + n ≤ high) (rest : Bytes) :
    pieces (some ⟨width, bits, owed + 2, low, high⟩) (UInt8.ofNat (0x80 + n) :: rest) =
      pieces (some ⟨width + 1, 64 * bits + n, owed + 1, 0x80, 0xbf⟩) rest := by
  have byte := toNat_byte (n := 0x80 + n) (by omega)
  simp only [pieces, byte, decide_eq_true above, decide_eq_true below, Bool.and_self, if_true,
    Nat.add_sub_cancel_left]

theorem pieces_last {width bits low high n : Nat} (small : n < 64) (above : low ≤ 0x80 + n)
    (below : 0x80 + n ≤ high) (rest : Bytes) :
    pieces (some ⟨width, bits, 1, low, high⟩) (UInt8.ofNat (0x80 + n) :: rest) =
      .char (Char.ofNat (64 * bits + n)) :: pieces none rest := by
  have byte := toNat_byte (n := 0x80 + n) (by omega)
  simp only [pieces, byte, decide_eq_true above, decide_eq_true below, Bool.and_self, if_true,
    Nat.add_sub_cancel_left]

theorem start_two {n : Nat} (long : 0x80 ≤ n) (short : n < 0x800) :
    start (0xc0 + n / 64) = .opens ⟨1, n / 64, 1, 0x80, 0xbf⟩ := by
  rw [start, if_neg (by omega), if_neg (by omega), if_pos (by omega), Nat.add_sub_cancel_left]

theorem start_three {n : Nat} (short : n < 0x10000) :
    start (0xe0 + n / 4096) = .opens ⟨1, n / 4096, 2, if n / 4096 = 0 then 0xa0 else 0x80,
      if n / 4096 = 13 then 0x9f else 0xbf⟩ := by
  have low : (0xe0 + n / 4096 = 0xe0) = (n / 4096 = 0) := by simp
  have high : (0xe0 + n / 4096 = 0xed) = (n / 4096 = 13) := propext (by omega)
  rw [start, if_neg (by omega), if_neg (by omega), if_neg (by omega), if_pos (by omega),
    Nat.add_sub_cancel_left]
  simp only [low, high]

theorem start_four {n : Nat} (short : n < 0x110000) :
    start (0xf0 + n / 262144) = .opens ⟨1, n / 262144, 3, if n / 262144 = 0 then 0x90 else 0x80,
      if n / 262144 = 4 then 0x8f else 0xbf⟩ := by
  have low : (0xf0 + n / 262144 = 0xf0) = (n / 262144 = 0) := by simp
  have high : (0xf0 + n / 262144 = 0xf4) = (n / 262144 = 4) := propext (by omega)
  rw [start, if_neg (by omega), if_neg (by omega), if_neg (by omega), if_neg (by omega),
    if_pos (by omega), Nat.add_sub_cancel_left]
  simp only [low, high]

theorem pieces_encodeChar (c : Char) (rest : Bytes) :
    pieces none (encodeChar c ++ rest) = .char c :: pieces none rest := by
  have valid : c.toNat < 0xd800 ∨ 0xdfff < c.toNat ∧ c.toNat < 0x110000 := c.valid
  have back : Char.ofNat c.toNat = c := Char.ofNat_toNat c
  simp only [encodeChar]
  generalize c.toNat = n at valid back
  split
  · next one =>
    exact pieces_whole (by omega) (by rw [start, if_pos one, back]) rest
  split
  · next two =>
    rw [List.cons_append, pieces_opens (by omega) (start_two (by omega) two), List.cons_append,
      pieces_last (by omega) (by omega) (by omega), Nat.div_add_mod, back, List.nil_append]
  split
  · next three =>
    have whole : 64 * (64 * (n / 4096) + n / 64 % 64) + n % 64 = n := by omega
    rw [List.cons_append, pieces_opens (by omega) (start_three three), List.cons_append,
      pieces_more (by omega) (by split <;> omega) (by split <;> omega), List.cons_append,
      pieces_last (by omega) (by omega) (by omega), whole, back, List.nil_append]
  · next four =>
    have whole : 64 * (64 * (64 * (n / 262144) + n / 4096 % 64) + n / 64 % 64) + n % 64 = n := by
      omega
    rw [List.cons_append, pieces_opens (by omega) (start_four (by omega)), List.cons_append,
      pieces_more (by omega) (by split <;> omega) (by split <;> omega), List.cons_append,
      pieces_more (by omega) (by omega) (by omega), List.cons_append,
      pieces_last (by omega) (by omega) (by omega), whole, back, List.nil_append]

theorem pieces_encodeChars (cs : List Char) : pieces none (encodeChars cs) = cs.map .char := by
  induction cs with
  | nil => rfl
  | cons c cs ih => rw [encodeChars, List.flatMap_cons, pieces_encodeChar, List.map_cons, ← ih]; rfl

theorem decodeLossy_encodeChars (cs : List Char) : decodeLossy (encodeChars cs) = cs := by
  rw [decodeLossy, pieces_encodeChars, List.map_map]
  simp [Function.comp_def]

theorem decodePass_encodeChars (cs : List Char) :
    decodePass (encodeChars cs) = .ok (cs.map .char) := by
  have chars (position : Nat) (bs : Bytes) :
      collectPoints position bs (cs.map .char) = .ok (cs.map .char) := by
    induction cs generalizing position bs with
    | nil => rfl
    | cons c cs ih =>
      rw [List.map_cons, collectPoints, ih]
      rfl
  rw [decodePass, pieces_encodeChars, chars]

end SecretStore.Text.Utf8
