import SecretStore.Keyring.Basic
import SecretStore.Store.Sealed
import SecretStore.Text.Unencodable

/-!
Opening the keyring that settings describe, over a primitive that the caller
has, or else over the file they name. The strategy is looked up first, then the
file gets its key from the passphrase, and the configuration is checked last.
Nothing is read or written.
-/

namespace SecretStore

def SealedFile.ofStorage (c : StorageConfig) (iterations : Nat) (levels : Levels) :
    Except Text.Unencodable SealedFile := do
  let passphrase ← Text.encode c.passphrase
  return ⟨.ofText c.path, Token.cipher (Token.deriveKey passphrase iterations), levels⟩

inductive Unopened
  | misconfigured (why : Misconfiguration)
  | passphrase (why : Text.Unencodable)

namespace Keyring

variable {π : Type}

def openedEntry (k : Keyring) (s : Strategy) : LogEntry :=
  ⟨.debug, "sealed_keyring.registry",
    "Opened keyring service=" ++ Text.quoted k.service ++ " with " ++ s.name ++ " policy"⟩

def primitive (own : SealedFile → π) (iterations : Nat) (levels : Levels) (c : StorageConfig) :
    Option π → Except Unopened π
  | some p => .ok p
  | none => ((SealedFile.ofStorage c iterations levels).mapError .passphrase).map own

/-- The keyring of settings, its primitive, and the log entry of its opening.
Primitives are of any kind that files are `own` to. -/
def ofSettings (own : SealedFile → π) (iterations : Nat) (levels : Levels) (s : Settings)
    (given : Option π) : Except Unopened (Keyring × π × LogEntry) := do
  let strategy ← (Strategy.ofName s.keyring.policy).mapError .misconfigured
  let primitive ← primitive own iterations levels s.storage given
  let keyring ← (Keyring.open? s.keyring (some strategy)).mapError .misconfigured
  return (keyring, primitive, keyring.openedEntry strategy)

end Keyring

end SecretStore
