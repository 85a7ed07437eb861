import SecretStore.Policy.Strategy
import SecretStore.Validation.Problem

/-!
What can go wrong in a keyring: no item under a key, a failure of the store,
an item that was removed while it was being replaced, a configuration that
describes no keyring, and a stored record that is no item. Texts quote the
service and the key, so that a line never breaks inside them.
-/

namespace SecretStore

structure StoreFailure where
  operation : String
  service : Text
  key : Option Text
  detail : Text
deriving DecidableEq, Repr

def StoreFailure.message (f : StoreFailure) : Text :=
  let target := "service=" ++ Text.quoted f.service ++
    (match f.key with
      | none => ""
      | some key => ", key=" ++ Text.quoted key)
  f.operation ++ " failed (" ++ target ++ ")" ++
    (if f.detail = "" then ("" : Text) else ": " ++ f.detail)

def keyNotFoundMessage (service key : Text) : String :=
  "key " ++ Text.quoted key ++ " not found in service " ++ Text.quoted service

inductive NativeKind
  | notFound
  | duplicate
  | other
deriving DecidableEq, Repr

structure NativeError where
  kind : NativeKind
  message : Text
deriving DecidableEq, Repr

inductive KeyringError
  | keyNotFound (service key : Text)
  | store (failure : StoreFailure) (cause : NativeKind)
  | lostUpdate (failure : StoreFailure)
  | misconfigured (why : Misconfiguration)
  | invalid (why : Rejection)

def KeyringError.message : KeyringError → Text
  | .keyNotFound service key => keyNotFoundMessage service key
  | .store failure _ => failure.message
  | .lostUpdate failure => failure.message
  | .misconfigured why => why.message
  | .invalid why => why.message

end SecretStore
