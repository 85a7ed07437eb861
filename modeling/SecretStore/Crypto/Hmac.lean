import SecretStore.Crypto.Sha256

/-!
Keyed digests, and keys derived from a passphrase by many of them. A key fills
one block, so the two states behind it are computed once for all messages
under it.
-/

namespace SecretStore

namespace Hmac

structure Key where
  inner : Sha256.Digest
  outer : Sha256.Digest

/-- A key of one block: a long one is digested, a short one is filled with zeros. -/
private def normalKey (key : Bytes) : Bytes :=
  let key := if 64 < key.length then (Sha256.digest key).toBytes else key
  key ++ List.replicate (64 - key.length) 0

def Key.ofBytes (key : Bytes) : Key :=
  let key := normalKey key
  let absorb (pad : UInt8) : Sha256.Digest :=
    Sha256.absorb Sha256.initial (Sha256.words (key.map (· ^^^ pad)))
  ⟨absorb 0x36, absorb 0x5c⟩

def digest (key : Key) (message : Bytes) : Sha256.Digest :=
  Sha256.finish key.outer 64 (Sha256.finish key.inner 64 message).toBytes

/-- A digest as the message behind the block of a key: one bit, and the length
of both, 768 bits. -/
private def digestBlock (d : Sha256.Digest) : Sha256.Block :=
  ⟨d.a, d.b, d.c, d.d, d.e, d.f, d.g, d.h, 0x80000000, 0, 0, 0, 0, 0, 0, 768⟩

def digestOf (key : Key) (d : Sha256.Digest) : Sha256.Digest :=
  Sha256.compress key.outer (digestBlock (Sha256.compress key.inner (digestBlock d)))

end Hmac

namespace KeyDerivation

private def xor (x y : Sha256.Digest) : Sha256.Digest :=
  ⟨x.a ^^^ y.a, x.b ^^^ y.b, x.c ^^^ y.c, x.d ^^^ y.d, x.e ^^^ y.e, x.f ^^^ y.f, x.g ^^^ y.g,
    x.h ^^^ y.h⟩

def iterate (key : Hmac.Key) : Nat → (last total : Sha256.Digest) → Sha256.Digest
  | 0, _, total => total
  | n + 1, last, total =>
    let next := Hmac.digestOf key last
    iterate key n next (xor total next)

/-- The first 32 bytes derived from a passphrase: the joined digests of as many
iterations, the first of them of the salt and the number of the block. -/
def derive (passphrase salt : Bytes) (iterations : Nat) : Bytes :=
  let key := Hmac.Key.ofBytes passphrase
  let first := Hmac.digest key (salt ++ [0, 0, 0, 1])
  (iterate key (iterations - 1) first first).toBytes

end KeyDerivation

end SecretStore
