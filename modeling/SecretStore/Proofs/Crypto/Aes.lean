import SecretStore.Proofs.Crypto.Field

/-!
Decryption undoes encryption. Each part of a round has an inverse: the
substitution of bytes, the shift of rows, the product with a circulant matrix
and the sum with a key. Rounds are undone from the last one on, blocks by the
encrypted block before each, and the filling by its last byte.
-/

namespace SecretStore.Aes

theorem table_getD (f : UInt8 → UInt8) (b : UInt8) : (table f).getD b.toNat 0 = f b := by
  have bound := b.toNat_lt
  simp [table, bound]

theorem rotations (i : UInt8) :
    let c := i ^^^ rotateLeft i 1 ^^^ rotateLeft i 2 ^^^ rotateLeft i 3 ^^^ rotateLeft i 4 ^^^ 0x63
    rotateLeft c 1 ^^^ rotateLeft c 3 ^^^ rotateLeft c 6 ^^^ 0x05 = i := by
  revert i
  exact forall_byte (by decide +kernel)

theorem unsubstitute_substitute (b : UInt8) : unsubstitute (substitute b) = b := by
  rw [substitute, substitution, table_getD, unsubstitute, unsubstitution, table_getD,
    unsubstituted, substituted, rotations, inverse_inverse]

namespace Column

theorem xor_xor (x y : Column) : (x.xor y).xor y = x := by
  have bytes (a b : UInt8) : a ^^^ b ^^^ b = a := by
    rw [UInt8.xor_assoc, UInt8.xor_self, UInt8.xor_zero]
  simp only [xor, bytes]

theorem map_substitute (x : Column) : (x.map substitute).map unsubstitute = x := by
  simp only [map, unsubstitute_substitute]

theorem circulant_circulant (p q r s p' q' r' s' : UInt8) (x : Column) :
    circulant p' q' r' s' (circulant p q r s x) =
      circulant (mul p p' ^^^ mul s q' ^^^ mul r r' ^^^ mul q s')
        (mul q p' ^^^ mul p q' ^^^ mul s r' ^^^ mul r s')
        (mul r p' ^^^ mul q q' ^^^ mul p r' ^^^ mul s s')
        (mul s p' ^^^ mul r q' ^^^ mul q r' ^^^ mul p s') x := by
  simp only [circulant, xor_mul, mul_xor, mul_assoc, mk.injEq]
  refine ⟨?_, ?_, ?_, ?_⟩ <;> ac_rfl

theorem circulant_one (x : Column) : circulant 1 0 0 0 x = x := by
  simp only [circulant, mul_one, mul_zero, UInt8.xor_zero, UInt8.zero_xor]

theorem unmix_mix (x : Column) : x.mix.unmix = x := by
  rw [mix, unmix, circulant_circulant]
  exact circulant_one x

end Column

namespace Block

theorem xor_xor (s t : Block) : (s.xor t).xor t = s := by
  simp only [xor, Column.xor_xor]

theorem map_unmix (s : Block) : (s.map Column.mix).map Column.unmix = s := by
  simp only [map, Column.unmix_mix]

theorem unshift_substitute (s : Block) :
    ((s.map (·.map substitute)).shift.unshift).map (·.map unsubstitute) = s := by
  rw [unshift_shift]
  simp only [map, Column.map_substitute]

end Block

theorem rounds_undone (keys : List Block) (s : Block) :
    let bytes (s : Block) : Block := (s.map (·.map substitute)).shift
    let unbytes (s : Block) : Block := s.unshift.map (·.map unsubstitute)
    keys.foldr (fun k s => ((unbytes s).xor k).map Column.unmix)
      (bytes (keys.foldl (fun s k => ((bytes s).map Column.mix).xor k) s)) = bytes s := by
  intro bytes unbytes
  have unbytes_bytes (s : Block) : unbytes (bytes s) = s := s.unshift_substitute
  induction keys generalizing s with
  | nil => rfl
  | cons k keys ih =>
    rw [List.foldl_cons, List.foldr_cons, ih, unbytes_bytes, Block.xor_xor, Block.map_unmix]

theorem decryptBlock_encryptBlock (keys : KeySchedule) (s : Block) :
    decryptBlock keys (encryptBlock keys s) = s := by
  simp only [decryptBlock, encryptBlock, Block.xor_xor]
  rw [rounds_undone, Block.unshift_substitute, Block.xor_xor]

theorem unchain_chain (keys : KeySchedule) (last : Block) (blocks : List Block) :
    unchain keys last (chain keys last blocks) = blocks := by
  induction blocks generalizing last with
  | nil => rfl
  | cons s rest ih => rw [chain, unchain, decryptBlock_encryptBlock, Block.xor_xor, ih]

theorem blocks_toBytes (ss : List Block) : blocks (ss.flatMap Block.toBytes) = ss := by
  induction ss with
  | nil => rfl
  | cons s rest ih =>
    rw [List.flatMap_cons]
    exact congrArg (s :: ·) ih

theorem toBytes_blocks {bs : Bytes} (whole : bs.length % 16 = 0) :
    (blocks bs).flatMap Block.toBytes = bs := by
  induction bs using blocks.induct with
  | case1 b0 b1 b2 b3 b4 b5 b6 b7 b8 b9 b10 b11 b12 b13 b14 b15 rest ih =>
    have rest_whole : rest.length % 16 = 0 := by
      simp only [List.length_cons] at whole
      omega
    rw [blocks, List.flatMap_cons, ih rest_whole]
    rfl
  | case2 bs short =>
    rcases bs with _ | ⟨_, _ | ⟨_, _ | ⟨_, _ | ⟨_, _ | ⟨_, _ | ⟨_, _ | ⟨_, _ | ⟨_, _ | ⟨_, _ | ⟨_,
      _ | ⟨_, _ | ⟨_, _ | ⟨_, _ | ⟨_, _ | ⟨_, _ | ⟨_, rest⟩⟩⟩⟩⟩⟩⟩⟩⟩⟩⟩⟩⟩⟩⟩⟩
    · rfl
    all_goals first
      | exact absurd whole (by simp only [List.length_cons, List.length_nil]; omega)
      | exact (short _ _ _ _ _ _ _ _ _ _ _ _ _ _ _ _ rest rfl).elim

theorem length_flatMap_toBytes (ss : List Block) :
    (ss.flatMap Block.toBytes).length = 16 * ss.length := by
  induction ss with
  | nil => rfl
  | cons s rest ih =>
    rw [List.flatMap_cons, List.length_append, ih, List.length_cons]
    have one : s.toBytes.length = 16 := rfl
    omega

theorem length_fill (message : Bytes) : (fill message).length % 16 = 0 := by
  rw [fill, List.length_append, List.length_replicate]
  omega

theorem unfill_fill (message : Bytes) : unfill? (fill message) = some message := by
  have bounds : 1 ≤ 16 - message.length % 16 ∧ 16 - message.length % 16 ≤ 16 := by omega
  generalize missing_eq : 16 - message.length % 16 = missing at bounds
  have filled : fill message = message ++ List.replicate missing (UInt8.ofNat missing) := by
    rw [fill, missing_eq]
  have count : ((fill message).getLastD 0).toNat = missing := by
    obtain ⟨n, rfl⟩ : ∃ n, missing = n + 1 := ⟨missing - 1, by omega⟩
    rw [filled, List.replicate_succ', ← List.append_assoc, List.getLastD_concat,
      UInt8.toNat_ofNat_of_lt' (Nat.lt_of_le_of_lt bounds.2 (by decide))]
  have kept : (fill message).length - missing = message.length := by
    rw [filled, List.length_append, List.length_replicate, Nat.add_sub_cancel]
  have front : (fill message).take message.length = message := by
    rw [filled, List.take_left]
  simp only [unfill?, count, kept, front]
  simp [bounds, filled]

theorem decrypt_encrypt (key start message : Bytes) :
    decrypt? key start (encrypt key start message) = some message := by
  rw [decrypt?, encrypt, length_flatMap_toBytes, blocks_toBytes]
  simp only [Nat.mul_mod_right, bne_self_eq_false, Bool.false_eq_true, if_false]
  rw [unchain_chain, toBytes_blocks (length_fill message), unfill_fill]

end SecretStore.Aes
