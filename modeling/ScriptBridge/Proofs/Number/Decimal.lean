import Mathlib.Algebra.Order.Field.Power
import ScriptBridge.Number.Decimal
import ScriptBridge.Proofs.Number.Nearest

/-!
# Decimals as numbers

A decimal becomes the number nearest to its value.  The exponents that are answered without
computing a power of ten are answered rightly: ten lies above the third power of two, so a large
exponent leads beyond every finite number, and a small one below half of the least positive one.
-/

namespace ScriptBridge

namespace Decimal

/-- What a decimal stands for. -/
def value (decimal : Decimal) : ℚ :=
  decimal.digits * 10 ^ decimal.exponent

theorem pow_le_ten_pow (exponent : ℕ) : 2 ^ (3 * exponent) ≤ 10 ^ exponent := by
  rw [Nat.pow_mul]
  exact Nat.pow_le_pow_left (by decide) exponent

theorem pow_le_mul_ten_pow {digits exponent bits : ℕ} (nonzero : digits ≠ 0)
    (large : bits ≤ digits.log2 + 3 * exponent) : 2 ^ bits ≤ digits * 10 ^ exponent :=
  calc 2 ^ bits ≤ 2 ^ (digits.log2 + 3 * exponent) := Nat.pow_le_pow_right two_pos large
    _ = 2 ^ digits.log2 * 2 ^ (3 * exponent) := Nat.pow_add 2 _ _
    _ ≤ digits * 10 ^ exponent :=
      Nat.mul_le_mul (Nat.log2_self_le nonzero) (pow_le_ten_pow exponent)

theorem mul_pow_lt_ten_pow {digits exponent bits : ℕ}
    (small : digits.log2 + bits + 2 ≤ 3 * exponent) : digits * 2 ^ bits * 2 < 10 ^ exponent :=
  calc digits * 2 ^ bits * 2 = digits * 2 ^ (bits + 1) := by rw [Nat.mul_assoc, ← Nat.pow_succ]
    _ < 2 ^ (digits.log2 + 1) * 2 ^ (bits + 1) :=
        Nat.mul_lt_mul_of_pos_right Nat.lt_log2_self (Nat.two_pow_pos _)
    _ = 2 ^ (digits.log2 + 1 + (bits + 1)) := (Nat.pow_add 2 _ _).symm
    _ ≤ 2 ^ (3 * exponent) := Nat.pow_le_pow_right two_pos (by omega)
    _ ≤ 10 ^ exponent := pow_le_ten_pow exponent

end Decimal

namespace Number

variable {negative : Bool} {magnitude : ℚ}

/-- Magnitudes below half a quantum vanish. -/
theorem rounds_zero (nonneg : 0 ≤ magnitude) (small : magnitude * BinaryFormat.one < 1 / 2) :
    Rounds negative magnitude (.zero negative) := by
  have positive : (0 : ℚ) < BinaryFormat.one := by exact_mod_cast BinaryFormat.one_pos
  exact .finite _ (BinaryFormat.isNearest_zero (by positivity) small)

/-- Magnitudes from `2 ^ 1024` on exceed the finite numbers. -/
theorem rounds_infinite {whole : ℕ} (large : 2 ^ 1024 ≤ whole) :
    Rounds negative whole (.infinite negative) := by
  have nearest : BinaryFormat.double.IsNearest _ _ :=
    BinaryFormat.isNearest_nearest (by decide) (whole * BinaryFormat.one) one_pos
  rw [Nat.cast_one, div_one, Nat.cast_mul] at nearest
  have point : BinaryFormat.double.Point (2 ^ (1024 + 1074)) :=
    BinaryFormat.point_two_pow (by decide) (Nat.zero_le _)
  have reached : 2 ^ (1024 + 1074) ≤ whole * BinaryFormat.one := by
    rw [Nat.pow_add]
    exact Nat.mul_le_mul_right _ large
  have beyond : BinaryFormat.double.greatest < 2 ^ (1024 + 1074) := by
    rw [show 1024 + 1074 = 53 + 2045 from rfl, Nat.pow_add]
    apply Nat.mul_lt_mul_of_pos_right _ (BinaryFormat.step_pos 2045)
    exact Nat.sub_lt (BinaryFormat.step_pos 53) one_pos
  apply Rounds.infinite (lt_of_lt_of_le beyond _) nearest
  exact nearest.le_of_point point (by exact_mod_cast reached)

end Number

namespace Decimal

theorem rounds_toNumber (negative : Bool) (decimal : Decimal) :
    Number.Rounds negative decimal.value (decimal.toNumber negative) := by
  rcases decimal with ⟨digits, exponent⟩
  by_cases isZero : digits = 0
  · have vanishes : value ⟨digits, exponent⟩ = 0 := by
      simp [value, isZero]
    rw [toNumber, if_pos isZero, vanishes]
    apply Number.rounds_zero (le_refl 0)
    rw [zero_mul]
    exact one_half_pos
  rw [toNumber, if_neg isZero]
  cases exponent with
  | ofNat exponent =>
      have whole : value ⟨digits, .ofNat exponent⟩ = (digits * 10 ^ exponent : ℕ) := by
        simp [value]
      rw [whole]
      dsimp only
      split
      · rename_i large
        exact Number.rounds_infinite (pow_le_mul_ten_pow isZero large)
      · exact Number.rounds_ofRatio_one negative (digits * 10 ^ exponent)
  | negSucc exponent =>
      have ratio : value ⟨digits, .negSucc exponent⟩ = digits / (10 ^ (exponent + 1) : ℕ) := by
        simp [value, zpow_negSucc, div_eq_mul_inv]
      have positive : 0 < 10 ^ (exponent + 1) := Nat.pow_pos (by decide)
      rw [ratio]
      dsimp only
      split
      · rename_i small
        apply Number.rounds_zero
        · positivity
        · have vanishes : digits * BinaryFormat.one * 2 < 10 ^ (exponent + 1) :=
            mul_pow_lt_ten_pow (by omega)
          rw [div_mul_eq_mul_div, div_lt_div_iff₀ (by exact_mod_cast positive) two_pos, one_mul]
          exact_mod_cast vanishes
      · exact Number.rounds_ofRatio digits positive

end Decimal

end ScriptBridge
