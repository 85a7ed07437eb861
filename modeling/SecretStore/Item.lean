import SecretStore.Bytes
import SecretStore.Time.Moment

/-!
Items as callers see them: a secret under a key, with words about it, and the
wish to keep it in step with other devices. Metadata is an item without its
secret, and the time of its last change.
-/

namespace SecretStore

structure Item where
  key : Text
  data : Bytes := []
  label : Text := ""
  description : Text := ""
  allowSync : Bool := true
deriving DecidableEq, Repr, Inhabited

structure Metadata where
  item : Item
  modified : Option Moment := none
deriving DecidableEq, Repr, Inhabited

end SecretStore
