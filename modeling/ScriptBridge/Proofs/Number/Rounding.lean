import ScriptBridge.Number.Basic

/-!
# Rounding and cutting numbers

Neither rounding to single precision nor cutting the fraction leads out of the numbers that
are defined, and a cut number is within its bounds.

A magnitude that a format holds is the nearest one to itself.  Double precision holds every
integer of at most 53 bits, so such an integer becomes a number without rounding, and
cutting that number into bounds that the integer keeps gives the integer back.
-/

namespace ScriptBridge

/-! ## Held magnitudes -/

theorem roundHalfEven_of_dvd {numerator denominator : Nat} (positive : 0 < denominator)
    (divides : denominator ∣ numerator) :
    roundHalfEven numerator denominator = numerator / denominator := by
  have noRemainder : numerator % denominator = 0 := Nat.mod_eq_zero_of_dvd divides
  have belowHalf : 2 * (numerator % denominator) < denominator := by
    omega
  simp only [roundHalfEven, if_pos belowHalf]

namespace BinaryFormat

theorem step_pos (exponent : Nat) : 0 < Nat.pow 2 exponent :=
  Nat.pow_pos (by decide)

theorem nearest_of_holds {format : BinaryFormat} {quanta : Nat}
    (held : format.Holds quanta) : format.nearest quanta 1 = quanta := by
  simp only [nearest, Nat.div_one, Nat.one_mul]
  rw [roundHalfEven_of_dvd (step_pos _) held.2]
  exact Nat.div_mul_cancel held.2

/-- A significand of the format's precision makes its grid no coarser than its exponent. -/
theorem exponentAt_mul_pow_le {format : BinaryFormat} {significand exponent : Nat}
    (precise : significand < Nat.pow 2 format.precision) (nonzero : significand ≠ 0)
    (lower : format.minExponent ≤ exponent) :
    format.exponentAt (significand * Nat.pow 2 exponent) ≤ exponent := by
  have positive : significand * Nat.pow 2 exponent ≠ 0 :=
    Nat.mul_ne_zero nonzero (Nat.ne_of_gt (step_pos exponent))
  have below : significand * Nat.pow 2 exponent < 2 ^ (format.precision + exponent) := by
    rw [Nat.pow_add]
    exact Nat.mul_lt_mul_of_pos_right precise (step_pos exponent)
  have bits : (significand * Nat.pow 2 exponent).log2 < format.precision + exponent :=
    (Nat.log2_lt positive).mpr below
  simp only [exponentAt]
  omega

/-- A significand of the format's precision is on the format's grid. -/
theorem pow_exponentAt_dvd {format : BinaryFormat} {significand exponent : Nat}
    (precise : significand < Nat.pow 2 format.precision)
    (lower : format.minExponent ≤ exponent) :
    Nat.pow 2 (format.exponentAt (significand * Nat.pow 2 exponent)) ∣
      significand * Nat.pow 2 exponent := by
  by_cases isZero : significand = 0
  · rw [isZero, Nat.zero_mul]
    exact Nat.dvd_zero _
  · apply Nat.dvd_mul_left_of_dvd
    exact Nat.pow_dvd_pow 2 (exponentAt_mul_pow_le precise isZero lower)

/-- A format holds every significand of its precision at every exponent that it has. -/
theorem holds_mul_pow {format : BinaryFormat} {significand exponent : Nat}
    (precise : significand < Nat.pow 2 format.precision)
    (lower : format.minExponent ≤ exponent) (upper : exponent ≤ format.maxExponent) :
    format.Holds (significand * Nat.pow 2 exponent) := by
  constructor
  · have atMost : significand ≤ Nat.pow 2 format.precision - 1 := by
      omega
    have shifted : Nat.pow 2 exponent ≤ Nat.pow 2 format.maxExponent :=
      Nat.pow_le_pow_right (by decide) upper
    exact Nat.mul_le_mul atMost shifted
  · exact pow_exponentAt_dvd precise lower

theorem one_pos : 0 < one := by
  unfold one
  apply step_pos

/-- Double precision holds the integers of at most 53 bits. -/
theorem holds_double_mul_one {value : Nat} (small : value < Nat.pow 2 53) :
    double.Holds (value * one) := by
  apply holds_mul_pow
  · exact small
  · exact Nat.zero_le 1074
  · simp only [double]
    omega

end BinaryFormat

namespace Number

/-! ## Rounded and cut numbers -/

theorem isNaN_ofQuanta (negative : Bool) (quanta : Nat) :
    (ofQuanta negative quanta).isNaN = false := by
  unfold ofQuanta
  split <;> rfl

/-- Rounding to single precision never gives the undefined number. -/
theorem isNaN_toSingle {number : Number} (defined : number.isNaN = false) :
    number.toSingle.isNaN = false := by
  cases number with
  | nan => exact defined
  | infinite negative => rfl
  | finite negative quanta held =>
      simp only [toSingle]
      split
      · exact isNaN_ofQuanta _ _
      · rfl

theorem saturate_mem_bounds {low high : Int} (ordered : low ≤ high) {number : Number}
    (defined : number.isNaN = false) :
    low ≤ number.saturate low high ∧ number.saturate low high ≤ high := by
  cases number with
  | nan => simp [isNaN] at defined
  | infinite negative => cases negative <;> simp [saturate, ordered]
  | finite negative quanta held =>
      simp only [saturate]
      omega

/-! ## Integers as numbers -/

theorem ofInt_of_small {value : Int} (small : value.natAbs < Nat.pow 2 53) :
    ofInt value = .finite (value < 0) (value.natAbs * BinaryFormat.one)
      (BinaryFormat.holds_double_mul_one small) := by
  have held := BinaryFormat.holds_double_mul_one small
  simp only [ofInt, ofRatio]
  rw [BinaryFormat.nearest_of_holds held]
  simp only [ofQuanta, dif_pos held]

theorem isNaN_ofInt (value : Int) : (ofInt value).isNaN = false :=
  isNaN_ofQuanta _ _

/-- Cutting the number of a small integer into bounds that the integer keeps gives the
integer back. -/
theorem saturate_ofInt {value low high : Int} (small : value.natAbs < Nat.pow 2 53)
    (fits : low ≤ value ∧ value ≤ high) : (ofInt value).saturate low high = value := by
  have truncated : truncateQuanta (value < 0) (value.natAbs * BinaryFormat.one) = value := by
    simp only [truncateQuanta, Nat.mul_div_cancel _ BinaryFormat.one_pos, signedQuanta,
      decide_eq_true_eq]
    split
    · omega
    · omega
  rw [ofInt_of_small small]
  simp only [saturate, truncated]
  omega

end Number

end ScriptBridge
