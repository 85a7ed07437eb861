import SecretStore.Validation.Coerce
import SecretStore.Settings.Basic
import SecretStore.Item

/-!
Settings and items from their fields. A field that is not given has its
default, fields of other names are passed over, and every field is checked
even when an earlier one is refused.
-/

namespace SecretStore

namespace Check

variable {α : Type}

def value (path : List Step) (coerce : Coerce.Coercion α) (v : Value) : Check α :=
  match coerce v with
  | .ok a => .ok a
  | .error complaint => .refused [⟨path, complaint, v⟩]

def ifGiven {β : Type} (path : List Step) (entries : List (Value × Value)) (name : String)
    (absent : β) (check : List Step → Value → β) : β :=
  match Value.lookup (.text name) entries with
  | none => absent
  | some v => check (path ++ [.field name]) v

def optional (path : List Step) (entries : List (Value × Value)) (name : String) (fallback : α)
    (check : List Step → Value → Check α) : Check α :=
  ifGiven path entries name (.ok fallback) check

def required (path : List Step) (entries : List (Value × Value)) (name : String)
    (check : List Step → Value → Check α) : Check α :=
  match Value.lookup (.text name) entries with
  | none => .refused [⟨path ++ [.field name], .missing, .mapping entries⟩]
  | some v => check (path ++ [.field name]) v

def texts (path : List Step) : Nat → List Value → Check (List Text)
  | _, [] => .ok []
  | n, v :: rest =>
    ((value (path ++ [.index n]) Coerce.text v).map List.cons).apply (texts path (n + 1) rest)

def names (path : List Step) (v : Value) : Check (List Text) :=
  let v := Coerce.namesFirst v
  match Coerce.items v with
  | .ok vs => texts path 0 vs
  | .error complaint => .refused [⟨path, complaint, v⟩]

def seconds (path : List Step) (v : Value) : Except Span.Overflow (Check Span) :=
  let v := Coerce.secondsFirst v
  match Coerce.span v with
  | .ok s => s.held.map .ok
  | .error complaint => .ok (.refused [⟨path, complaint, v⟩])

end Check

inductive Unset
  | overflow (why : Span.Overflow)
  | rejected (why : Rejection)

def Check.settle {α : Type} (subject : String) (r : Except Span.Overflow (Check α)) :
    Except Unset α :=
  match r with
  | .error why => .error (.overflow why)
  | .ok check => (check.toExcept subject).mapError .rejected

namespace KeyringConfig

def check (path : List Step) (entries : List (Value × Value)) :
    Except Span.Overflow (Check KeyringConfig) := do
  let standard : KeyringConfig := {}
  let text (name : String) (fallback : Text) : Check Text :=
    Check.optional path entries name fallback fun p v => Check.value p Coerce.text v
  let switch (name : String) (fallback : Bool) : Check Bool :=
    Check.optional path entries name fallback fun p v => Check.value p Coerce.bool v
  let reuse ← Check.ifGiven path entries "biometrics_reuse_duration" (.ok (.ok standard.reuse))
    Check.seconds
  return ((text "service_name" standard.serviceName).map KeyringConfig.mk)
    |>.apply (text "policy" standard.policy)
    |>.apply (Check.optional path entries "access_control_flags" standard.controlFlags Check.names)
    |>.apply (text "protection_constraint" standard.constraint)
    |>.apply reuse
    |>.apply (switch "synchronizable" standard.synchronizable)
    |>.apply (switch "accessible_when_unlocked" standard.accessibleWhenUnlocked)

end KeyringConfig

namespace StorageConfig

def check (path : List Step) (entries : List (Value × Value)) : Check StorageConfig :=
  let standard : StorageConfig := {}
  let text (name : String) (fallback : Text) : Check Text :=
    Check.optional path entries name fallback fun p v => Check.value p Coerce.text v
  ((text "path" standard.path).map StorageConfig.mk)
    |>.apply (text "passphrase" standard.passphrase)

end StorageConfig

namespace Settings

def mappingOr {α : Type} (name : String)
    (check : List Step → List (Value × Value) → Except Span.Overflow (Check α))
    (path : List Step) : Value → Except Span.Overflow (Check α)
  | .mapping entries => check path entries
  | v => .ok (.refused [⟨path, .notSection name, v⟩])

def check (entries : List (Value × Value)) : Except Span.Overflow (Check Settings) := do
  let keyring ← Check.ifGiven [] entries "keyring" (.ok (.ok {}))
    (mappingOr "KeyringConfig" KeyringConfig.check)
  let storage ← Check.ifGiven [] entries "storage" (.ok (.ok {}))
    (mappingOr "StorageConfig" fun path inner => .ok (StorageConfig.check path inner))
  return (keyring.map Settings.mk).apply storage

def ofEntries (entries : List (Value × Value)) : Except Unset Settings :=
  Check.settle "Settings" (check entries)

end Settings

def KeyringConfig.ofEntries (entries : List (Value × Value)) : Except Unset KeyringConfig :=
  Check.settle "KeyringConfig" (KeyringConfig.check [] entries)

namespace Item

def check (path : List Step) (entries : List (Value × Value)) : Check Item :=
  let text (name : String) : Check Text :=
    Check.optional path entries name ("" : String) fun p v => Check.value p Coerce.text v
  ((Check.required path entries "key" fun p v => Check.value p Coerce.text v).map Item.mk)
    |>.apply (Check.optional path entries "data" [] fun p v => Check.value p Coerce.bytes v)
    |>.apply (text "label")
    |>.apply (text "description")
    |>.apply (Check.optional path entries "allow_sync" true fun p v => Check.value p Coerce.bool v)

def ofEntries (entries : List (Value × Value)) : Except Rejection Item :=
  (check [] entries).toExcept "Item"

end Item

namespace Metadata

private def checkItem (path : List Step) : Value → Check Item
  | .mapping entries => Item.check path entries
  | v => .refused [⟨path, .notFields, v⟩]

def check (entries : List (Value × Value)) : Check Metadata :=
  ((Check.required [] entries "item" checkItem).map Metadata.mk)
    |>.apply (Check.optional [] entries "modification_time" none fun p v =>
      Check.value p Coerce.momentOrNull v)

def ofEntries (entries : List (Value × Value)) : Except Rejection Metadata :=
  (check entries).toExcept "Metadata"

end Metadata

end SecretStore
