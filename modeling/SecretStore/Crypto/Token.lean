import SecretStore.Crypto.Aes
import SecretStore.Crypto.Hmac
import SecretStore.Text.Base64
import SecretStore.Text.Utf8

/-!
Sealed text. A token holds a version, the time of its sealing, a start block,
the encrypted text, and a keyed digest of all that comes before; it is written
in base64. The first half of a key signs and the second half encrypts. Reading
skips characters outside the alphabet, as base64 does.
-/

namespace SecretStore.Token

/-- 32 bytes. -/
abbrev Key := Bytes

def signingKey (key : Key) : Bytes := key.take 16

def encryptionKey (key : Key) : Bytes := key.drop 16

def signature (key : Key) (body : Bytes) : Bytes :=
  (Hmac.digest (.ofBytes (signingKey key)) body).toBytes

def body (key : Key) (second : Nat) (start message : Bytes) : Bytes :=
  0x80 :: Bytes.ofNat64 second ++ start ++ Aes.encrypt (encryptionKey key) start message

/-- The token of a message, sealed at a second since 1970 with a start block. -/
def encrypt (key : Key) (second : Nat) (start message : Bytes) : Bytes :=
  let body := body key second start message
  (Text.Base64.encodeUrl (body ++ signature key body)).map fun c => UInt8.ofNat c.toNat

def decode? (token : Bytes) : Option Bytes :=
  (Text.Base64.decodeUrl (token.map fun b => Char.ofNat b.toNat)).toOption

def decrypt? (key : Key) (token : Bytes) : Option Bytes := do
  let bytes ← decode? token
  if bytes.headD 0 != 0x80 || bytes.length < 9 then none
  else
    let body := bytes.take (bytes.length - 32)
    let signed := bytes.drop (bytes.length - 32)
    if signature key body != signed then none
    else Aes.decrypt? (encryptionKey key) ((body.drop 9).take 16) (body.drop 25)

def salt : Bytes :=
  Text.Utf8.encode "sealed-keyring-records-v1"

def standardIterations : Nat := 480000

def deriveKey (passphrase : Bytes) (iterations : Nat) : Key :=
  KeyDerivation.derive passphrase salt iterations

end SecretStore.Token
