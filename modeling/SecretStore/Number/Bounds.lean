/-!
How far whole numbers of a fixed width reach: those without a sign in 32 and in
64 bits, and those with one in 64.
-/

namespace SecretStore.Bounds

def greatest32 : Nat := 0xffffffff

def greatest64 : Nat := 0xffffffffffffffff

def leastSigned64 : Int := -0x8000000000000000

def greatestSigned64 : Int := 0x7fffffffffffffff

def isSigned64 (n : Int) : Bool :=
  leastSigned64 ≤ n && n ≤ greatestSigned64

def clampSigned64 (n : Int) : Int :=
  max leastSigned64 (min n greatestSigned64)

end SecretStore.Bounds
