import SecretStore.Proofs.Crypto.Aes
import SecretStore.Proofs.Text.Base64
import SecretStore.Crypto.Token

/-!
A token that a key sealed is opened by this key, with the message that was
sealed, whatever the second and the start block of the sealing were.
-/

namespace SecretStore.Token

theorem decode_bytes (bs : Bytes) :
    decode? ((Text.Base64.encodeUrl bs).map fun c => UInt8.ofNat c.toNat) = some bs := by
  have chars : ((Text.Base64.encodeUrl bs).map fun c => UInt8.ofNat c.toNat).map
      (fun b => Char.ofNat b.toNat) = Text.Base64.encodeUrl bs := by
    rw [List.map_map]
    refine (List.map_congr_left fun c member => ?_).trans (List.map_id _)
    have ascii := Text.Base64.encodeUrl_ascii bs c member
    rw [Function.comp_apply, UInt8.toNat_ofNat_of_lt' (Nat.lt_trans ascii (by decide)),
      Char.ofNat_toNat]
    rfl
  rw [decode?, chars, Text.Base64.decodeUrl_encodeUrl]
  rfl

theorem length_signature (key : Key) (body : Bytes) : (signature key body).length = 32 := rfl

theorem decrypt_encrypt (key : Key) (second : Nat) {start : Bytes} (message : Bytes)
    (block : start.length = 16) :
    decrypt? key (encrypt key second start message) = some message := by
  have opened := decode_bytes (body key second start message ++
    signature key (body key second start message))
  have front : (0x80 :: Bytes.ofNat64 second).length = 9 := rfl
  generalize body_eq : body key second start message = b at opened
  have parts : b = (0x80 :: Bytes.ofNat64 second) ++ start ++
      Aes.encrypt (encryptionKey key) start message := body_eq.symm
  have head : (b ++ signature key b).headD 0 = 0x80 := by
    rw [parts]
    rfl
  have long : 25 ≤ b.length := by
    rw [parts, List.length_append, List.length_append, front, block]
    omega
  have kept : (b ++ signature key b).length - 32 = b.length := by
    rw [List.length_append, length_signature, Nat.add_sub_cancel]
  have start_eq : (b.drop 9).take 16 = start := by
    rw [parts, List.append_assoc, List.drop_left' front, List.take_left' block]
  have rest_eq : b.drop 25 = Aes.encrypt (encryptionKey key) start message := by
    rw [parts, List.drop_left' (by rw [List.length_append, front, block])]
  have short : ¬ (b ++ signature key b).length < 9 := by
    rw [List.length_append]
    omega
  rw [encrypt, body_eq, decrypt?, opened]
  simp only [Option.bind_eq_bind, Option.bind_some, head, kept, List.take_left, List.drop_left,
    start_eq, rest_eq, bne_self_eq_false, Bool.false_or, decide_eq_true_eq, if_neg short,
    Bool.false_eq_true, if_false]
  exact Aes.decrypt_encrypt ..

end SecretStore.Token
