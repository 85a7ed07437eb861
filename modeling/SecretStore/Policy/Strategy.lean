import SecretStore.Policy.Access
import SecretStore.Settings.Basic
import SecretStore.Text.Quoted

/-!
From the names in a configuration to an access policy. The flags strategy
reads a constraint and a list of factors; the legacy strategy reads one
switch, always asks for the current biometric set, and accepts neither a
constraint nor factors, though it reports names that mean nothing before it
says so.
-/

namespace SecretStore

inductive Strategy
  | flags
  | legacy
deriving DecidableEq, Repr

inductive Misconfiguration
  | deprecatedConstraint (name : Text) (replacement : Constraint)
  | unknownConstraint (name : Text)
  | unknownFactor (name : Text)
  | conflictingCombinators
  | unsupportedByLegacy
  | negativeReuse (duration : Span)
  | unknownStrategy (name : Text)
deriving DecidableEq, Repr

namespace Misconfiguration

def message : Misconfiguration → String
  | deprecatedConstraint name replacement =>
    "protection constraint " ++ Text.quoted name ++ " is deprecated and no longer " ++
      "supported; use " ++ Text.quoted replacement.shortName ++ " instead"
  | unknownConstraint name => "unknown protection constraint " ++ Text.quoted name
  | unknownFactor name => "unknown access control flag " ++ Text.quoted name
  | conflictingCombinators => "access control flags cannot combine both 'And' and 'Or'"
  | unsupportedByLegacy =>
    "the legacy policy does not support 'access_control_flags' or " ++
      "'protection_constraint'; use 'accessible_when_unlocked' or the 'flags' policy"
  | negativeReuse duration =>
    "biometric reuse duration must not be negative, got " ++ duration.text
  | unknownStrategy name =>
    "unknown policy strategy " ++ Text.quoted name ++ " (expected one of: flags, legacy)"

end Misconfiguration

/-- The constraint of a short name; the empty name is the standard constraint. -/
def Constraint.resolve (name : Text) : Except Misconfiguration Constraint :=
  match replacement? name with
  | some replacement => .error (.deprecatedConstraint name replacement)
  | none =>
    if name = "" then .ok standard
    else match ofShortName? name with
      | some c => .ok c
      | none => .error (.unknownConstraint name)

def Factor.resolveAll : List Text → Except Misconfiguration (List Factor)
  | [] => .ok []
  | name :: rest =>
    match ofName? name with
    | none => .error (.unknownFactor name)
    | some f => match resolveAll rest with
      | .ok fs => .ok (f :: fs)
      | .error why => .error why

/-- The bits of a list of factor names; order and repetition do not matter. -/
def Flags.resolve (names : List Text) : Except Misconfiguration Flags :=
  (Factor.resolveAll names).map ofFactors

/-- A reuse window may be zero, which disables reuse, but not negative. -/
def checkReuse (duration : Span) : Except Misconfiguration Span :=
  if duration.micros < 0 then .error (.negativeReuse duration) else .ok duration

namespace Strategy

def name : Strategy → String
  | .flags => "flags"
  | .legacy => "legacy"

def ofName (s : Text) : Except Misconfiguration Strategy :=
  if s = "flags" then .ok .flags
  else if s = "legacy" then .ok .legacy
  else .error (.unknownStrategy s)

private def resolveFlags (config : KeyringConfig) : Except Misconfiguration AccessPolicy := do
  let constraint ← Constraint.resolve config.constraint
  let flags ← Flags.resolve config.controlFlags
  if flags.has .allOf && flags.has .anyOf then .error .conflictingCombinators
  else return ⟨constraint, flags⟩

private def resolveLegacy (config : KeyringConfig) : Except Misconfiguration AccessPolicy := do
  let _ ← Flags.resolve config.controlFlags
  let _ ← Constraint.resolve config.constraint
  if !config.controlFlags.isEmpty || config.constraint ≠ "" then .error .unsupportedByLegacy
  else
    let constraint :=
      if config.accessibleWhenUnlocked then .whenUnlocked else Constraint.standard
    return ⟨constraint, .ofFactors [.biometryCurrentSet]⟩

def resolve : Strategy → KeyringConfig → Except Misconfiguration AccessPolicy
  | .flags => resolveFlags
  | .legacy => resolveLegacy

end Strategy

end SecretStore
