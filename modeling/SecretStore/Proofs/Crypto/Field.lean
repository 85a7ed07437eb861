import SecretStore.Crypto.Aes
import Mathlib.Algebra.Group.Nat.Defs

/-!
The bytes as a field. Products are additive in both factors, so an identity
between them follows from its instances at the powers of the element x. The
inverse is its own inverse, because every element is its own power to the 256.
-/

namespace SecretStore.Aes

theorem forall_byte {p : UInt8 → Prop} (h : ∀ n < 256, p (UInt8.ofNat n)) (b : UInt8) : p b := by
  have instance_b := h b.toNat b.toNat_lt
  rwa [UInt8.ofNat_toNat] at instance_b

theorem xor_cancel (a b c : UInt8) : (a ^^^ c) ^^^ (b ^^^ c) = a ^^^ b := by
  have gathered : (a ^^^ c) ^^^ (b ^^^ c) = (a ^^^ b) ^^^ (c ^^^ c) := by ac_rfl
  rw [gathered, UInt8.xor_self, UInt8.xor_zero]

theorem top_bit (b : UInt8) : 0x80 ≤ b ↔ b.toBitVec.msb = true := by
  rw [UInt8.le_iff_toNat_le, BitVec.msb_eq_decide]
  simp

theorem double_xor (a b : UInt8) : double (a ^^^ b) = double a ^^^ double b := by
  simp only [double, top_bit, UInt8.toBitVec_xor, BitVec.msb_xor, UInt8.shiftLeft_xor]
  cases a.toBitVec.msb <;> cases b.toBitVec.msb
  · simp
  · simp only [Bool.false_xor, if_true, Bool.false_eq_true, if_false, UInt8.xor_zero]
    ac_rfl
  · simp only [Bool.xor_false, if_true, Bool.false_eq_true, if_false, UInt8.xor_zero]
    ac_rfl
  · simp only [Bool.xor_self, if_true, Bool.false_eq_true, if_false, UInt8.xor_zero]
    exact (xor_cancel _ _ 0x1b).symm

def IsAdditive (f : UInt8 → UInt8) : Prop :=
  ∀ a b, f (a ^^^ b) = f a ^^^ f b

def lowBits (b : UInt8) : Nat → UInt8
  | 0 => 0
  | n + 1 => lowBits b n ^^^ (if b.toNat.testBit n then UInt8.ofNat (2 ^ n) else 0)

theorem lowBits_eight : ∀ b : UInt8, lowBits b 8 = b :=
  forall_byte (by decide +kernel)

namespace IsAdditive

variable {f g : UInt8 → UInt8}

theorem zero (h : IsAdditive f) : f 0 = 0 := by
  have twice := h 0 0
  rw [UInt8.xor_self, UInt8.xor_self] at twice
  exact twice

theorem comp (hf : IsAdditive f) (hg : IsAdditive g) : IsAdditive fun b => f (g b) := by
  intro a b
  simp only [hg a b, hf (g a) (g b)]

theorem agree_lowBits (hf : IsAdditive f) (hg : IsAdditive g)
    (powers : ∀ n < 8, f (UInt8.ofNat (2 ^ n)) = g (UInt8.ofNat (2 ^ n))) (b : UInt8) :
    ∀ n ≤ 8, f (lowBits b n) = g (lowBits b n) := by
  intro n bound
  induction n with
  | zero => rw [lowBits, hf.zero, hg.zero]
  | succ n ih =>
    rw [lowBits, hf, hg, ih (by omega)]
    by_cases bit : b.toNat.testBit n = true
    · rw [if_pos bit, powers n bound]
    · rw [if_neg bit, hf.zero, hg.zero]

theorem agree (hf : IsAdditive f) (hg : IsAdditive g)
    (powers : ∀ n < 8, f (UInt8.ofNat (2 ^ n)) = g (UInt8.ofNat (2 ^ n))) (b : UInt8) :
    f b = g b := by
  rw [← lowBits_eight b]
  exact agree_lowBits hf hg powers b 8 (Nat.le_refl 8)

end IsAdditive

theorem mulBits_xor_left (n : Nat) (a b c : UInt8) :
    mulBits n (a ^^^ b) c = mulBits n a c ^^^ mulBits n b c := by
  induction n generalizing a b c with
  | zero => exact UInt8.xor_self.symm
  | succ n ih =>
    simp only [mulBits, double_xor, ih]
    cases c &&& 1 == 1 <;> simp only [Bool.false_eq_true, if_true, if_false, UInt8.zero_xor]
    ac_rfl

theorem lowest_bit (b : UInt8) : (b &&& 1 == 1) = b.toBitVec.getLsbD 0 := by
  rw [Bool.eq_iff_iff, beq_iff_eq, ← UInt8.toNat_inj, UInt8.toNat_and]
  change b.toNat &&& 1 = 1 ↔ b.toNat.testBit 0 = true
  rw [Nat.and_one_is_mod, Nat.testBit_zero, decide_eq_true_iff]

theorem lowest_bit_xor (a b : UInt8) :
    ((a ^^^ b) &&& 1 == 1) = ((a &&& 1 == 1) ^^ (b &&& 1 == 1)) := by
  simp only [lowest_bit, UInt8.toBitVec_xor, BitVec.getLsbD_xor]

theorem mulBits_xor_right (n : Nat) (a b c : UInt8) :
    mulBits n a (b ^^^ c) = mulBits n a b ^^^ mulBits n a c := by
  induction n generalizing a b c with
  | zero => exact UInt8.xor_self.symm
  | succ n ih =>
    simp only [mulBits, lowest_bit_xor, UInt8.shiftRight_xor, ih]
    cases b &&& 1 == 1 <;> cases c &&& 1 == 1 <;>
      simp only [Bool.false_eq_true, Bool.xor_self, Bool.xor_false, Bool.false_xor, if_true,
        if_false, UInt8.zero_xor]
    · ac_rfl
    · ac_rfl
    · rw [UInt8.xor_comm a, UInt8.xor_comm a, xor_cancel]

theorem xor_mul (a b c : UInt8) : mul (a ^^^ b) c = mul a c ^^^ mul b c :=
  mulBits_xor_left 8 a b c

theorem mul_xor (a b c : UInt8) : mul a (b ^^^ c) = mul a b ^^^ mul a c :=
  mulBits_xor_right 8 a b c

theorem mul_xor_left (c : UInt8) : IsAdditive fun a => mul a c :=
  fun a b => xor_mul a b c

theorem mul_xor_right (a : UInt8) : IsAdditive fun b => mul a b :=
  mul_xor a

theorem mul_zero (b : UInt8) : mul b 0 = 0 :=
  (mul_xor_right b).zero

theorem mul_one (b : UInt8) : mul b 1 = b := by
  have rest : mulBits 7 (double b) 0 = 0 := IsAdditive.zero (mulBits_xor_right 7 (double b))
  change b ^^^ mulBits 7 (double b) 0 = b
  rw [rest, UInt8.xor_zero]

/-- What holds of the powers of x, by computation: products of two commute, products of
three associate, and each is its own power to the 256. -/
theorem powers_of_x :
    (∀ i < 8, ∀ j < 8, mul (UInt8.ofNat (2 ^ i)) (UInt8.ofNat (2 ^ j)) =
      mul (UInt8.ofNat (2 ^ j)) (UInt8.ofNat (2 ^ i))) ∧
    (∀ i < 8, ∀ j < 8, ∀ k < 8,
      mul (mul (UInt8.ofNat (2 ^ i)) (UInt8.ofNat (2 ^ j))) (UInt8.ofNat (2 ^ k)) =
        mul (UInt8.ofNat (2 ^ i)) (mul (UInt8.ofNat (2 ^ j)) (UInt8.ofNat (2 ^ k)))) ∧
    ∀ i < 8, power (power (UInt8.ofNat (2 ^ i)) 16) 16 = UInt8.ofNat (2 ^ i) := by
  decide +kernel

theorem mul_comm (a b : UInt8) : mul a b = mul b a := by
  refine IsAdditive.agree (mul_xor_left b) (mul_xor_right b) (fun i hi => ?_) a
  refine IsAdditive.agree (mul_xor_right _) (mul_xor_left _) (fun j hj => ?_) b
  exact powers_of_x.1 i hi j hj

theorem one_mul (b : UInt8) : mul 1 b = b :=
  (mul_comm 1 b).trans (mul_one b)

theorem mul_assoc (a b c : UInt8) : mul (mul a b) c = mul a (mul b c) := by
  refine IsAdditive.agree ((mul_xor_left c).comp (mul_xor_left b)) (mul_xor_left (mul b c))
    (fun i hi => ?_) a
  refine IsAdditive.agree ((mul_xor_left c).comp (mul_xor_right _))
    ((mul_xor_right _).comp (mul_xor_left c)) (fun j hj => ?_) b
  refine IsAdditive.agree (mul_xor_right _) ((mul_xor_right _).comp (mul_xor_right _))
    (fun k hk => ?_) c
  exact powers_of_x.2.1 i hi j hj k hk

theorem power_add (b : UInt8) (m n : Nat) : power b (m + n) = mul (power b m) (power b n) := by
  induction m with
  | zero => rw [Nat.zero_add, power, one_mul]
  | succ m ih => rw [Nat.succ_add, power, power, ih, mul_assoc]

theorem power_mul (b : UInt8) (m n : Nat) : power b (m * n) = power (power b m) n := by
  induction n with
  | zero => rfl
  | succ n ih => rw [Nat.mul_succ, Nat.add_comm, power_add, ih, power]

theorem square_xor (a b : UInt8) : mul (a ^^^ b) (a ^^^ b) = mul a a ^^^ mul b b := by
  rw [xor_mul, mul_xor, mul_xor, mul_comm b a, UInt8.xor_comm (mul a b) (mul b b), xor_cancel]

theorem power_xor (n : Nat) : IsAdditive fun b => power b (2 ^ n) := by
  induction n with
  | zero =>
    intro a b
    simp only [Nat.pow_zero, power, mul_one]
  | succ n ih =>
    intro a b
    simp only [Nat.pow_succ, Nat.mul_two, power_add, ih a b, square_xor]

theorem power_order (b : UInt8) : power b 256 = b := by
  refine IsAdditive.agree (g := fun b => b) (power_xor 8) (fun _ _ => rfl) (fun n bound => ?_) b
  exact (power_mul _ 16 16).trans (powers_of_x.2.2 n bound)

theorem inverse_inverse (b : UInt8) : inverse (inverse b) = b := by
  calc
    inverse (inverse b) = power b (254 * 254) := (power_mul b 254 254).symm
    _ = power b (256 * 252 + 4) := rfl
    _ = mul (power (power b 256) 252) (power b 4) := by rw [power_add, power_mul]
    _ = mul (power b 252) (power b 4) := by rw [power_order]
    _ = power b 256 := (power_add b 252 4).symm
    _ = b := power_order b

end SecretStore.Aes
