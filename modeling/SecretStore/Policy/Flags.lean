import SecretStore.Text

/-!
The factors that must be shown to use an item, as bits of a number: which
factors there are, and how several of them are combined. Bits that stand for
no factor are kept.
-/

namespace SecretStore

inductive Factor
  | userPresence
  | biometryAny
  | biometryCurrentSet
  | devicePasscode
  | watch
  | anyOf
  | allOf
  | privateKeyUsage
  | applicationPassword
deriving DecidableEq, Repr

namespace Factor

def all : List Factor :=
  [.userPresence, .biometryAny, .biometryCurrentSet, .devicePasscode, .watch, .anyOf, .allOf,
    .privateKeyUsage, .applicationPassword]

def name : Factor → Text
  | .userPresence => "UserPresence"
  | .biometryAny => "BiometryAny"
  | .biometryCurrentSet => "BiometryCurrentSet"
  | .devicePasscode => "DevicePasscode"
  | .watch => "Watch"
  | .anyOf => "Or"
  | .allOf => "And"
  | .privateKeyUsage => "PrivateKeyUsage"
  | .applicationPassword => "ApplicationPassword"

def bit : Factor → Nat
  | .userPresence => 0
  | .biometryAny => 1
  | .biometryCurrentSet => 3
  | .devicePasscode => 4
  | .watch => 5
  | .anyOf => 14
  | .allOf => 15
  | .privateKeyUsage => 30
  | .applicationPassword => 31

def ofName? (s : Text) : Option Factor :=
  all.find? fun f => f.name == s

theorem mem_all (f : Factor) : f ∈ all := by
  cases f <;> decide

end Factor

structure Flags where
  bits : Nat
deriving DecidableEq, Repr, Inhabited

namespace Flags

def empty : Flags := ⟨0⟩

def has (flags : Flags) (f : Factor) : Bool :=
  flags.bits.testBit f.bit

def insert (flags : Flags) (f : Factor) : Flags :=
  ⟨flags.bits ||| 1 <<< f.bit⟩

def ofFactors (fs : List Factor) : Flags :=
  fs.foldl insert empty

def combinators : Flags :=
  ofFactors [.allOf, .anyOf]

def factors (flags : Flags) : Flags :=
  ⟨flags.bits ^^^ (flags.bits &&& combinators.bits)⟩

private def countBits (n : Nat) : Nat → Nat
  | 0 => 0
  | width + 1 => countBits n width + (if n.testBit width then 1 else 0)

def size (flags : Flags) : Nat :=
  countBits flags.bits (Nat.log2 flags.bits + 1)

private theorem countBits_eq (n width : Nat) :
    countBits n width = ((List.range width).filter n.testBit).length := by
  induction width with
  | zero => rfl
  | succ width ih =>
    rw [countBits, ih, List.range_succ, List.filter_append, List.length_append]
    cases set : n.testBit width <;> simp [set]

theorem size_eq_length (flags : Flags) : flags.size =
    ((List.range (Nat.log2 flags.bits + 1)).filter flags.bits.testBit).length :=
  countBits_eq ..

/-- A negative number stands for the bits that it leaves of a power of two: of
2^32, or past that of the first one above its magnitude. -/
def ofInt (n : Int) : Flags :=
  if n < 0 then
    let size := n.natAbs
    ⟨(if size ≤ 0x100000000 then 0x100000000 else 1 <<< (Nat.log2 size + 1)) - size⟩
  else ⟨n.natAbs⟩

end Flags

end SecretStore
