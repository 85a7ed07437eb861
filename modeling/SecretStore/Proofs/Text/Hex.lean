import Mathlib.Tactic.Ring
import SecretStore.Text.Digit
import SecretStore.Text.Quoted

/-!
Hexadecimal digits: each has its value, and a run of them writes the number modulo a power
of sixteen.
-/

namespace SecretStore.Text

theorem hexValue_hexDigit : ∀ d < 16, hexValue? (hexDigit d) = some d := by
  decide

theorem mem_hexDigits {width n : Nat} {c : Char} (member : c ∈ hexDigits width n) :
    ∃ d < 16, c = hexDigit d := by
  induction width with
  | zero => cases member
  | succ width ih =>
    rcases List.mem_cons.mp member with rfl | later
    · exact ⟨_, Nat.mod_lt _ (by decide), rfl⟩
    · exact ih later

theorem length_hexDigits (width n : Nat) : (hexDigits width n).length = width := by
  induction width with
  | zero => rfl
  | succ width ih => rw [hexDigits, List.length_cons, ih]

/-- The number that digits write behind those of another; what is no digit counts as zero. -/
def hexNumber (front : Nat) (cs : List Char) : Nat :=
  cs.foldl (fun n c => 16 * n + (hexValue? c).getD 0) front

theorem hexNumber_hexDigits (width n front : Nat) :
    hexNumber front (hexDigits width n) = front * 16 ^ width + n % 16 ^ width := by
  induction width generalizing front with
  | zero => simp [hexNumber, hexDigits, Nat.mod_one]
  | succ width ih =>
    have digit : n >>> (4 * width) % 16 = n / 16 ^ width % 16 := by
      rw [Nat.shiftRight_eq_div_pow, Nat.pow_mul]
    have value := hexValue_hexDigit (n / 16 ^ width % 16) (Nat.mod_lt _ (by decide))
    rw [hexDigits, digit, hexNumber, List.foldl_cons, ← hexNumber, ih, value, Option.getD_some,
      Nat.mod_pow_succ]
    ring

end SecretStore.Text
