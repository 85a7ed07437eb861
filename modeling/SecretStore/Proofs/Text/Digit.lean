import SecretStore.Text.Digit
import Mathlib.Algebra.Group.Nat.Defs

/-!
The decimal digits of a number, and the number that they write. Zeros in front
change nothing, and no other number but zero starts with one.
-/

namespace SecretStore.Text

theorem digitsValue_eq (cs : List Char) : digitsValue cs = Nat.ofDigitChars 10 cs 0 := by
  rw [digitsValue, Nat.ofDigitChars_eq_foldl]
  congr 1
  funext n c
  rw [Nat.mul_comm]
  rfl

theorem digitsValue_decimal (n : Nat) : digitsValue (decimal n) = n := by
  rw [digitsValue_eq, decimal, Nat.ofDigitChars_ten_toDigits]

theorem digitsValue_padded (width n : Nat) : digitsValue (padded width n) = n := by
  rw [padded, digitsValue_eq, Nat.ofDigitChars_append, Nat.ofDigitChars_replicate_zero,
    Nat.mul_zero, decimal, Nat.ofDigitChars_ten_toDigits]

theorem decimal_ne_nil (n : Nat) : decimal n ≠ [] :=
  Nat.toDigits_ne_nil

theorem isAsciiDigit_decimal (n : Nat) : ∀ c ∈ decimal n, isAsciiDigit c = true :=
  fun _ member => Nat.isDigit_of_mem_toDigits (by decide) (by decide) member

theorem isAsciiDigit_padded (width n : Nat) : ∀ c ∈ padded width n, isAsciiDigit c = true := by
  intro c member
  rcases List.mem_append.mp member with zero | digit
  · rw [List.eq_of_mem_replicate zero]
    rfl
  · exact isAsciiDigit_decimal n c digit

theorem length_padded {width n : Nat} (positive : 0 < width) (h : n < 10 ^ width) :
    (padded width n).length = width := by
  have short : (decimal n).length ≤ width :=
    (Nat.length_toDigits_le_iff (by decide) positive).mpr h
  rw [padded, List.length_append, List.length_replicate]
  omega

theorem head_decimal {n : Nat} (h : n ≠ 0) : ∃ c cs, decimal n = c :: cs ∧ c ≠ '0' := by
  induction n using Nat.strongRecOn with
  | ind n ih =>
    by_cases small : n < 10
    · refine ⟨n.digitChar, [], Nat.toDigits_of_lt_base small, ?_⟩
      intro zero
      have value := Nat.toNat_digitChar_of_lt_ten small
      rw [zero] at value
      simp at value
      omega
    · obtain ⟨c, cs, front, other⟩ := ih (n / 10) (by omega) (by omega)
      refine ⟨c, cs ++ [(n % 10).digitChar], ?_, other⟩
      rw [decimal, Nat.toDigits_of_base_le (by decide) (by omega)]
      exact congrArg (· ++ [(n % 10).digitChar]) front

theorem asciiDigit_of_isAsciiDigit {c : Char} (h : isAsciiDigit c = true) :
    asciiDigit? c = some (c.toNat - 48) := by
  rw [asciiDigit?]
  exact if_pos h

end SecretStore.Text
