import SecretStore.Text.Base64

/-!
Reading base64 gives back what was written, in either alphabet. The reader is
followed character by character: each digit fills up the byte that the last
one began and keeps the bits that belong to the next one.
-/

namespace SecretStore.Text.Base64

theorem digitValue_digit : ∀ n < 64, digitValue? (digit n) = some n := by
  decide

theorem digit_ne_pad : ∀ n < 64, digit n ≠ '=' := by
  decide

theorem decodeFrom_zero {n : Nat} (h : n < 64) (pads written : Nat) (rest : List Char) :
    decodeFrom .zero pads written (digit n :: rest) = decodeFrom (.one n) 0 written rest := by
  simp [decodeFrom, digit_ne_pad n h, digitValue_digit n h]

theorem decodeFrom_one {n : Nat} (h : n < 64) (bits pads written : Nat) (rest : List Char) :
    decodeFrom (.one bits) pads written (digit n :: rest) =
      (decodeFrom (.two (n % 16)) 0 (written + 1) rest).map
        (UInt8.ofNat (bits * 4 + n / 16) :: ·) := by
  simp [decodeFrom, digit_ne_pad n h, digitValue_digit n h]
  rfl

theorem decodeFrom_two {n : Nat} (h : n < 64) (bits pads written : Nat) (rest : List Char) :
    decodeFrom (.two bits) pads written (digit n :: rest) =
      (decodeFrom (.three (n % 4)) 0 (written + 1) rest).map
        (UInt8.ofNat (bits * 16 + n / 4) :: ·) := by
  simp [decodeFrom, digit_ne_pad n h, digitValue_digit n h]
  rfl

theorem decodeFrom_three {n : Nat} (h : n < 64) (bits pads written : Nat) (rest : List Char) :
    decodeFrom (.three bits) pads written (digit n :: rest) =
      (decodeFrom .zero 0 (written + 1) rest).map (UInt8.ofNat (bits * 64 + n) :: ·) := by
  simp [decodeFrom, digit_ne_pad n h, digitValue_digit n h]
  rfl

theorem byte_eq {a : UInt8} {n : Nat} (h : n = a.toNat) : UInt8.ofNat n = a := by
  rw [h, UInt8.ofNat_toNat]

theorem decodeFrom_encode (bs : Bytes) (pads written : Nat) :
    decodeFrom .zero pads written (encode bs) = .ok bs := by
  induction bs using encode.induct generalizing pads written with
  | case1 => rfl
  | case2 a =>
    have ha := a.toNat_lt
    rw [encode, decodeFrom_zero (by omega), decodeFrom_one (by omega),
      byte_eq (a := a) (by omega)]
    rfl
  | case3 a b =>
    have ha := a.toNat_lt
    have hb := b.toNat_lt
    rw [encode, decodeFrom_zero (by omega), decodeFrom_one (by omega), decodeFrom_two (by omega),
      byte_eq (a := a) (by omega), byte_eq (a := b) (by omega)]
    rfl
  | case4 a b c rest ih =>
    have ha := a.toNat_lt
    have hb := b.toNat_lt
    have hc := c.toNat_lt
    rw [encode, decodeFrom_zero (by omega), decodeFrom_one (by omega), decodeFrom_two (by omega),
      decodeFrom_three (by omega), ih, byte_eq (a := a) (by omega), byte_eq (a := b) (by omega),
      byte_eq (a := c) (by omega)]
    rfl

theorem decode_encode (bs : Bytes) : decode (encode bs) = .ok bs :=
  decodeFrom_encode bs 0 0

theorem of_mem_encode {p : Char → Prop} (digits : ∀ n < 64, p (digit n)) (pad : p '=')
    (bs : Bytes) : ∀ c ∈ encode bs, p c := by
  induction bs using encode.induct with
  | case1 =>
    intro c member
    cases member
  | case2 a =>
    have ha := a.toNat_lt
    simp only [encode, List.forall_mem_cons]
    exact ⟨digits _ (by omega), digits _ (by omega), pad, pad, by simp⟩
  | case3 a b =>
    have ha := a.toNat_lt
    have hb := b.toNat_lt
    simp only [encode, List.forall_mem_cons]
    exact ⟨digits _ (by omega), digits _ (by omega), digits _ (by omega), pad, by simp⟩
  | case4 a b c rest ih =>
    have ha := a.toNat_lt
    have hb := b.toNat_lt
    have hc := c.toNat_lt
    simp only [encode, List.forall_mem_cons]
    exact ⟨digits _ (by omega), digits _ (by omega), digits _ (by omega), digits _ (by omega), ih⟩

theorem encode_ascii (bs : Bytes) : ∀ c ∈ encode bs, c.toNat < 128 :=
  of_mem_encode (by decide) (by decide) bs

theorem encodeUrl_ascii (bs : Bytes) : ∀ c ∈ encodeUrl bs, c.toNat < 128 := by
  intro c member
  obtain ⟨d, hd, rfl⟩ := List.mem_map.mp member
  exact of_mem_encode (p := fun d => (toUrlAlphabet d).toNat < 128) (by decide) (by decide) bs d hd

theorem decodeUrl_encodeUrl (bs : Bytes) : decodeUrl (encodeUrl bs) = .ok bs := by
  have plain : (encodeUrl bs).map ofUrlAlphabet = encode bs := by
    rw [encodeUrl, List.map_map]
    refine (List.map_congr_left ?_).trans (List.map_id _)
    exact of_mem_encode (p := fun c => (ofUrlAlphabet ∘ toUrlAlphabet) c = id c)
      (by decide) (by decide) bs
  rw [decodeUrl, plain, decode_encode]

end SecretStore.Text.Base64
