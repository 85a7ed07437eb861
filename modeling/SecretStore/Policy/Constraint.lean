import SecretStore.Text

/-!
When an item can be decrypted. Each constraint has the name the platform gives
it, which is what is stored, and a short name for configurations.
-/

namespace SecretStore

inductive Constraint
  | whenUnlocked
  | whenUnlockedThisDeviceOnly
  | afterFirstUnlock
  | afterFirstUnlockThisDeviceOnly
  | whenPasscodeSetThisDeviceOnly
deriving DecidableEq, Repr, Inhabited

namespace Constraint

def all : List Constraint :=
  [.whenUnlocked, .whenUnlockedThisDeviceOnly, .afterFirstUnlock,
    .afterFirstUnlockThisDeviceOnly, .whenPasscodeSetThisDeviceOnly]

def standard : Constraint := .whenUnlockedThisDeviceOnly

def shortName : Constraint → String
  | .whenUnlocked => "WhenUnlocked"
  | .whenUnlockedThisDeviceOnly => "WhenUnlockedThisDeviceOnly"
  | .afterFirstUnlock => "AfterFirstUnlock"
  | .afterFirstUnlockThisDeviceOnly => "AfterFirstUnlockThisDeviceOnly"
  | .whenPasscodeSetThisDeviceOnly => "WhenPasscodeSetThisDeviceOnly"

def nativeName (c : Constraint) : String :=
  "kSecAttrAccessible" ++ c.shortName

def ofShortName? (name : Text) : Option Constraint :=
  all.find? fun c => c.shortName == name

def ofNativeName? (name : Text) : Option Constraint :=
  all.find? fun c => c.nativeName == name

theorem mem_all (c : Constraint) : c ∈ all := by
  cases c <;> decide

def replacement? (name : Text) : Option Constraint :=
  if name = "Always" then some .afterFirstUnlock
  else if name = "AlwaysThisDeviceOnly" then some .afterFirstUnlockThisDeviceOnly
  else none

end Constraint

end SecretStore
