/-!
Double-precision numbers. A finite one is a sign, a mantissa below 2^53 and an
exponent of two that is at least -1074; the mantissa is at least 2^52 unless
the exponent is the least one. Every operation is computed exactly on
fractions and rounded once, to the nearest number and at a tie to the even
mantissa.
-/

namespace SecretStore

inductive Binary64
  | nan
  | infinite (negative : Bool)
  | finite (negative : Bool) (mantissa : Nat) (exponent : Int)
deriving DecidableEq, Repr

namespace Binary64

/-- The quotient rounded to the nearest number, at a tie to the even one. -/
def roundDiv (num den : Nat) : Nat :=
  let q := num / den
  let r := num % den
  if 2 * r < den || (2 * r == den && q % 2 == 0) then q else q + 1

def normalMantissa : Nat := 0x10000000000000

private def scaleDown (num den : Nat) : Int → Nat × Nat
  | .ofNat e => (num, den <<< e)
  | .negSucc e => (num <<< (e + 1), den)

def ofRatio (negative : Bool) (num den : Nat) : Binary64 :=
  if num = 0 then .finite negative 0 (-1074)
  else
    let guess : Int := (Nat.log2 num : Int) - (Nat.log2 den : Int) - 53
    let wide := scaleDown num den guess
    let exponent := max (if wide.1 / wide.2 < 2 * normalMantissa then guess else guess + 1) (-1074)
    let scaled := scaleDown num den exponent
    let mantissa := roundDiv scaled.1 scaled.2
    let carry := mantissa == 2 * normalMantissa
    let mantissa := if carry then normalMantissa else mantissa
    let exponent := if carry then exponent + 1 else exponent
    if 971 < exponent then .infinite negative else .finite negative mantissa exponent

def ofNat (n : Nat) : Binary64 :=
  ofRatio false n 1

def ofInt (n : Int) : Binary64 :=
  ofRatio (n < 0) n.natAbs 1

def ofDecimal (negative : Bool) (digits : Nat) (exponent : Int) : Binary64 :=
  let magnitude := (Nat.log2 digits : Int) * 3 / 10 + exponent
  if digits = 0 then .finite negative 0 (-1074)
  else if 400 < magnitude then .infinite negative
  else if magnitude < -800 - (Nat.log2 digits : Int) then .finite negative 0 (-1074)
  else match exponent with
    | .ofNat e => ofRatio negative (digits * Nat.pow 10 e) 1
    | .negSucc e => ofRatio negative digits (Nat.pow 10 (e + 1))

def fraction (mantissa : Nat) : Int → Nat × Nat
  | .ofNat e => (mantissa <<< e, 1)
  | .negSucc e => (mantissa, 1 <<< (e + 1))

private def signed (negative : Bool) (n : Nat) : Int :=
  if negative then -(n : Int) else n

/-- The whole part, toward zero; nothing for what is not finite. -/
def truncate? : Binary64 → Option Int
  | .finite negative m e =>
    let f := fraction m e
    some (signed negative (f.1 / f.2))
  | _ => none

def toInt? : Binary64 → Option Int
  | .finite negative m e =>
    let f := fraction m e
    if f.1 % f.2 = 0 then some (signed negative (f.1 / f.2)) else none
  | _ => none

def isNegative : Binary64 → Bool
  | .nan => false
  | .infinite negative => negative
  | .finite negative _ _ => negative

def neg : Binary64 → Binary64
  | .nan => .nan
  | .infinite negative => .infinite !negative
  | .finite negative m e => .finite (!negative) m e

def abs : Binary64 → Binary64
  | .nan => .nan
  | .infinite _ => .infinite false
  | .finite _ m e => .finite false m e

def isZero : Binary64 → Bool
  | .finite _ 0 _ => true
  | _ => false

def mul : Binary64 → Binary64 → Binary64
  | .finite s m e, .finite t n f =>
    let a := fraction m e
    let b := fraction n f
    ofRatio (s != t) (a.1 * b.1) (a.2 * b.2)
  | .nan, _ | _, .nan => .nan
  | .infinite s, y => if y.isZero then .nan else .infinite (s != y.isNegative)
  | x, .infinite t => if x.isZero then .nan else .infinite (x.isNegative != t)

def div : Binary64 → Binary64 → Binary64
  | .finite s m e, .finite t n f =>
    let a := fraction m e
    let b := fraction n f
    ofRatio (s != t) (a.1 * b.2) (a.2 * b.1)
  | .infinite s, .finite t _ _ => .infinite (s != t)
  | .finite s _ _, .infinite t => .finite (s != t) 0 (-1074)
  | _, _ => .nan

def add : Binary64 → Binary64 → Binary64
  | .finite s m e, .finite t n f =>
    let a := fraction m e
    let b := fraction n f
    let sum := signed s (a.1 * b.2) + signed t (b.1 * a.2)
    ofRatio (if sum = 0 then s && t else sum < 0) sum.natAbs (a.2 * b.2)
  | .nan, _ | _, .nan => .nan
  | .infinite s, .infinite t => if s == t then .infinite s else .nan
  | .infinite s, _ => .infinite s
  | _, .infinite t => .infinite t

def fract : Binary64 → Binary64
  | .finite negative m e =>
    let f := fraction m e
    ofRatio negative (f.1 % f.2) f.2
  | _ => .nan

def roundAway? : Binary64 → Option Int
  | .finite negative m e =>
    let f := fraction m e
    some (signed negative ((2 * f.1 + f.2) / (2 * f.2)))
  | _ => none

/-- Equality of values: zero has one value, and NaN equals nothing. -/
def same : Binary64 → Binary64 → Bool
  | .finite s m e, .finite t n f =>
    let a := fraction m e
    let b := fraction n f
    signed s (a.1 * b.2) == signed t (b.1 * a.2)
  | .infinite s, .infinite t => s == t
  | _, _ => false

end Binary64

end SecretStore
