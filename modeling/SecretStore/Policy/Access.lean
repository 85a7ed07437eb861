import SecretStore.Policy.Constraint
import SecretStore.Policy.Flags

/-!
The policy of an item: when it can be decrypted and which factors must be
shown for it.
-/

namespace SecretStore

inductive Combinator
  | all
  | any
deriving DecidableEq, Repr

def Combinator.name : Combinator → String
  | .all => "And"
  | .any => "Or"

structure AccessPolicy where
  constraint : Constraint
  flags : Flags
deriving DecidableEq, Repr, Inhabited

namespace AccessPolicy

def factors (p : AccessPolicy) : Flags :=
  p.flags.factors

/-- A combinator that is set wins, any over all; without one, several factors
must all be shown. -/
def combinator (p : AccessPolicy) : Option Combinator :=
  if p.flags.has .anyOf then some .any
  else if p.flags.has .allOf then some .all
  else if 1 < p.factors.size then some .all
  else none

end AccessPolicy

end SecretStore
