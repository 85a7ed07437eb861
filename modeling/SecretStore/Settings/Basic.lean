import SecretStore.Text
import SecretStore.Time.Span

/-!
Settings: what a keyring is called, how it protects its items, and where the
records are kept. Names of policies and factors are plain text here; whether
they mean anything is decided when a keyring is opened.
-/

namespace SecretStore

structure KeyringConfig where
  serviceName : Text := "sealed-keyring"
  policy : Text := "flags"
  controlFlags : List Text := []
  constraint : Text := ""
  reuse : Span := .zero
  synchronizable : Bool := false
  /-- Read by the legacy policy only. -/
  accessibleWhenUnlocked : Bool := false
deriving DecidableEq, Repr, Inhabited

structure StorageConfig where
  path : Text := "./data/keyring.enc"
  passphrase : Text := "sealed-keyring-default"
deriving DecidableEq, Repr, Inhabited

structure Settings where
  keyring : KeyringConfig := {}
  storage : StorageConfig := {}
deriving DecidableEq, Repr, Inhabited

end SecretStore
