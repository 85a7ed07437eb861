import SecretStore.Policy.Flags
import Mathlib.Data.Finset.Card
import Mathlib.Data.Finset.Image

/-!
Flags as sets of factors. Every factor has a bit of its own, so the flags made
from a list of factors tell which factors are in it, and the number of their
bits is the number of different factors.
-/

namespace SecretStore

namespace Factor

theorem ofName?_name (f : Factor) : ofName? f.name = some f := by
  cases f <;> decide

theorem ofName?_eq_some_iff {name : Text} {f : Factor} : ofName? name = some f ↔ f.name = name := by
  constructor
  · intro found
    have same := List.find?_some found
    exact eq_of_beq same
  · rintro rfl
    exact ofName?_name f

theorem name_injective : Function.Injective name := by
  intro f g same
  have found := ofName?_name f
  rw [same, ofName?_name] at found
  exact (Option.some.inj found).symm

theorem bit_injective : Function.Injective bit := by
  intro f g same
  cases f <;> cases g <;> first | rfl | cases same

def isCombinator (f : Factor) : Bool :=
  f == .allOf || f == .anyOf

end Factor

namespace Flags

theorem testBit_insert (flags : Flags) (f : Factor) (n : Nat) :
    (flags.insert f).bits.testBit n = (flags.bits.testBit n || f.bit == n) := by
  rw [insert, Nat.testBit_or, Nat.one_shiftLeft, Nat.testBit_two_pow]
  rfl

theorem testBit_ofFactors (fs : List Factor) (n : Nat) :
    (ofFactors fs).bits.testBit n = fs.any fun f => f.bit == n := by
  have folded (flags : Flags) : (fs.foldl insert flags).bits.testBit n =
      (flags.bits.testBit n || fs.any fun f => f.bit == n) := by
    induction fs generalizing flags with
    | nil => rw [List.foldl_nil, List.any_nil, Bool.or_false]
    | cons f rest ih => rw [List.foldl_cons, ih, testBit_insert, List.any_cons, Bool.or_assoc]
  rw [ofFactors, folded, empty, Nat.zero_testBit, Bool.false_or]

theorem has_ofFactors (fs : List Factor) (f : Factor) :
    (ofFactors fs).has f = true ↔ f ∈ fs := by
  rw [has, testBit_ofFactors, List.any_eq_true]
  constructor
  · rintro ⟨g, member, same⟩
    exact Factor.bit_injective (eq_of_beq same) ▸ member
  · exact fun member => ⟨f, member, beq_self_eq_true _⟩

theorem ofFactors_eq_iff {fs gs : List Factor} :
    ofFactors fs = ofFactors gs ↔ ∀ f, f ∈ fs ↔ f ∈ gs := by
  constructor
  · intro same f
    rw [← has_ofFactors, same, has_ofFactors]
  · intro same
    rw [Flags.mk.injEq]
    refine Nat.eq_of_testBit_eq fun n => ?_
    rw [testBit_ofFactors, testBit_ofFactors, Bool.eq_iff_iff]
    simp only [List.any_eq_true, same]

theorem testBit_factors (flags : Flags) (n : Nat) : flags.factors.bits.testBit n =
    (flags.bits.testBit n && !combinators.bits.testBit n) := by
  rw [factors, Nat.testBit_xor, Nat.testBit_and]
  cases flags.bits.testBit n <;> cases combinators.bits.testBit n <;> rfl

theorem testBit_combinators (f : Factor) : combinators.bits.testBit f.bit = f.isCombinator := by
  cases f <;> decide

theorem factors_ofFactors (fs : List Factor) :
    (ofFactors fs).factors = ofFactors (fs.filter fun f => !f.isCombinator) := by
  rw [Flags.mk.injEq]
  refine Nat.eq_of_testBit_eq fun n => ?_
  rw [testBit_factors, testBit_ofFactors, testBit_ofFactors, List.any_filter, Bool.eq_iff_iff,
    Bool.and_eq_true, List.any_eq_true, List.any_eq_true]
  constructor
  · rintro ⟨⟨f, member, same⟩, other⟩
    obtain rfl := eq_of_beq same
    rw [testBit_combinators] at other
    exact ⟨f, member, Bool.and_eq_true_iff.mpr ⟨other, same⟩⟩
  · rintro ⟨f, member, found⟩
    obtain ⟨other, same⟩ := Bool.and_eq_true_iff.mp found
    obtain rfl := eq_of_beq same
    rw [testBit_combinators]
    exact ⟨⟨f, member, same⟩, other⟩

theorem lt_of_testBit {flags : Flags} {n : Nat} (set : flags.bits.testBit n = true) :
    n < Nat.log2 flags.bits + 1 := by
  have power : 2 ^ n ≤ flags.bits := Nat.ge_two_pow_of_testBit set
  have positive : flags.bits ≠ 0 := by
    have := Nat.two_pow_pos n
    omega
  exact Nat.lt_succ_of_le ((Nat.le_log2 positive).mpr power)

theorem size_ofFactors (fs : List Factor) : (ofFactors fs).size = fs.toFinset.card := by
  have places : ((List.range (Nat.log2 (ofFactors fs).bits + 1)).filter
      (ofFactors fs).bits.testBit).toFinset = fs.toFinset.image Factor.bit := by
    ext n
    simp only [List.mem_toFinset, List.mem_filter, List.mem_range, Finset.mem_image]
    rw [and_iff_right_of_imp lt_of_testBit, testBit_ofFactors, List.any_eq_true]
    simp only [beq_iff_eq]
  rw [size_eq_length, ← List.toFinset_card_of_nodup (List.nodup_range.filter _), places,
    Finset.card_image_of_injective _ Factor.bit_injective]

end Flags

end SecretStore
