import Mathlib.Algebra.Order.Floor.Ring
import Mathlib.Data.Int.ConditionallyCompleteOrder
import Mathlib.Data.Rat.Floor
import Mathlib.Order.WithBot
import Mathlib.Tactic.Linarith
import ScriptBridge.Proofs.Number.Rounding

/-!
# Numbers cut into bounds

A number that is defined stands for a rational, or for an end of the rationals.  `saturated` cuts
the fraction off, toward zero, and moves the integer into bounds; this is what `Number.saturate`
computes from the quanta (`saturate_eq_saturated`).  It keeps the order and the integers that are
within the bounds.

A machine goes there in three steps: it cuts the fraction off and moves the result into the bounds,
both of which give a number again, and then casts the number to a wide integer.  As every number
that is reached on the way is held exactly, the steps come to the same (`saturate_clamp_cut`).
-/

namespace ScriptBridge

/-! ## Rationals and their ends -/

/-- The integer part of a rational, toward zero. -/
def towardZero (value : ℚ) : ℤ :=
  if 0 ≤ value then ⌊value⌋ else ⌈value⌉

/-- A rational, or an end of the rationals, cut toward zero and moved into bounds. -/
def saturated (low high : ℤ) : WithBot (WithTop ℚ) → ℤ
  | ⊥ => low
  | (⊤ : WithTop ℚ) => high
  | ((value : ℚ) : WithTop ℚ) => max low (min high (towardZero value))

@[simp]
theorem towardZero_intCast (value : ℤ) : towardZero value = value := by
  simp [towardZero]

theorem towardZero_mono {left right : ℚ} (ordered : left ≤ right) :
    towardZero left ≤ towardZero right := by
  simp only [towardZero]
  split <;> split
  · exact Int.floor_le_floor ordered
  · linarith
  · rename_i negative nonneg
    have nonpos : left ≤ 0 := by linarith
    have leftNonpos : ⌈left⌉ ≤ 0 := Int.ceil_le.mpr (by exact_mod_cast nonpos)
    exact leftNonpos.trans (Int.floor_nonneg.mpr nonneg)
  · exact Int.ceil_le_ceil ordered

section

variable {low high : ℤ}

theorem saturated_mem_bounds (ordered : low ≤ high) (value : WithBot (WithTop ℚ)) :
    low ≤ saturated low high value ∧ saturated low high value ≤ high := by
  cases value with
  | bot => exact ⟨le_rfl, ordered⟩
  | coe value =>
      cases value with
      | top => exact ⟨ordered, le_rfl⟩
      | coe value => exact ⟨le_max_left _ _, max_le ordered (min_le_left _ _)⟩

/-- Cutting and moving into bounds keep the order. -/
theorem saturated_mono (ordered : low ≤ high) : Monotone (saturated low high) := by
  intro left right leftLe
  cases left with
  | bot => exact (saturated_mem_bounds ordered right).1
  | coe left =>
      cases right with
      | bot => exact absurd leftLe (WithBot.not_coe_le_bot left)
      | coe right =>
          rw [WithBot.coe_le_coe] at leftLe
          cases right with
          | top => exact (saturated_mem_bounds ordered _).2
          | coe right =>
              cases left with
              | top => exact absurd leftLe (WithTop.not_top_le_coe right)
              | coe left =>
                  have cut := towardZero_mono (WithTop.coe_le_coe.mp leftLe)
                  exact max_le_max le_rfl (min_le_min le_rfl cut)

/-- Integers within the bounds are kept. -/
theorem saturated_intCast {value : ℤ} (fits : low ≤ value ∧ value ≤ high) :
    saturated low high ((value : ℚ) : WithTop ℚ) = value := by
  simp [saturated, fits.1, fits.2]

end

namespace Number

/-! ## What numbers stand for -/

/-- What a number stands for: a rational, or an end of the rationals.  The undefined number stands
for nothing. -/
def extended? : Number → Option (WithBot (WithTop ℚ))
  | .nan => none
  | .infinite true => some ⊥
  | .infinite false => some (⊤ : WithTop ℚ)
  | .finite negative quanta _ =>
      some ((signedQuanta negative quanta / BinaryFormat.one : ℚ) : WithTop ℚ)

theorem isNaN_of_extended? {number : Number} {value : WithBot (WithTop ℚ)}
    (defined : number.extended? = some value) : number.isNaN = false := by
  cases number with
  | nan => cases defined
  | _ => rfl

theorem exists_extended {number : Number} (defined : number.isNaN = false) :
    ∃ value, number.extended? = some value := by
  cases number with
  | nan => cases defined
  | infinite negative => cases negative <;> exact ⟨_, rfl⟩
  | finite => exact ⟨_, rfl⟩

theorem signedQuanta_mul (negative : Bool) (quanta step : ℕ) :
    signedQuanta negative (quanta * step) = signedQuanta negative quanta * step := by
  cases negative <;> simp [signedQuanta]

theorem signedQuanta_natAbs (value : ℤ) : signedQuanta (value < 0) value.natAbs = value := by
  simp only [signedQuanta, decide_eq_true_eq]
  split <;> omega

/-- Dividing quanta and rounding down is rounding a signed ratio toward zero. -/
theorem signedQuanta_div (negative : Bool) (quanta step : ℕ) :
    signedQuanta negative (quanta / step) = towardZero (signedQuanta negative quanta / step) := by
  have floored : ⌊(quanta : ℚ) / step⌋ = ((quanta / step : ℕ) : ℤ) := by
    rw [Int.natCast_div]
    exact Rat.floor_natCast_div_natCast quanta step
  have nonneg : (0 : ℚ) ≤ quanta / step := by positivity
  cases negative with
  | false => simp [signedQuanta, towardZero, nonneg, floored]
  | true =>
      simp only [signedQuanta, if_true, Int.cast_neg, Int.cast_natCast, neg_div, ← floored]
      rcases nonneg.eq_or_lt with isZero | positive
      · simp [← isZero, towardZero]
      · have below : ¬0 ≤ -((quanta : ℚ) / step) := by linarith
        rw [towardZero, if_neg below, Int.ceil_neg]

/-- Saturating a number is cutting what it stands for and moving it into the bounds. -/
theorem saturate_eq_saturated (low high : ℤ) {number : Number} {value : WithBot (WithTop ℚ)}
    (standsFor : number.extended? = some value) :
    number.saturate low high = saturated low high value := by
  cases number with
  | nan => cases standsFor
  | infinite negative => cases negative <;> cases standsFor <;> rfl
  | finite negative quanta held =>
      cases standsFor
      simp only [saturate, truncateQuanta, signedQuanta_div, saturated]

/-! ## The steps of a machine -/

/-- A magnitude with more whole steps than a significand can count has no part of a step. -/
theorem pow_dvd_of_le_div {format : BinaryFormat} {quanta exponent : ℕ}
    (onGrid : Nat.pow 2 (format.exponentAt quanta) ∣ quanta)
    (large : Nat.pow 2 format.precision ≤ quanta / Nat.pow 2 exponent) :
    Nat.pow 2 exponent ∣ quanta := by
  have reached : 2 ^ (format.precision + exponent) ≤ quanta := by
    rw [Nat.pow_add]
    exact (Nat.le_div_iff_mul_le (BinaryFormat.step_pos exponent)).mp large
  have nonzero : quanta ≠ 0 := (Nat.lt_of_lt_of_le (Nat.two_pow_pos _) reached).ne'
  have coarse : exponent ≤ format.exponentAt quanta := by
    have bits := (Nat.le_log2 nonzero).mpr reached
    simp only [BinaryFormat.exponentAt]
    omega
  exact (Nat.pow_dvd_pow 2 coarse).trans onGrid

/-- The whole quanta of a number are held: a number that has a fraction is below `2 ^ 53`. -/
theorem holds_cut {quanta : ℕ} (held : BinaryFormat.double.Holds quanta) :
    BinaryFormat.double.Holds (quanta / BinaryFormat.one * BinaryFormat.one) := by
  by_cases small : quanta / BinaryFormat.one < Nat.pow 2 53
  · exact BinaryFormat.holds_double_mul_one small
  · have whole : BinaryFormat.one ∣ quanta := pow_dvd_of_le_div held.2 (Nat.le_of_not_lt small)
    rwa [Nat.div_mul_cancel whole]

/-- The number without its fraction. -/
def cut : Number → Number
  | .finite negative quanta held =>
      .finite negative (quanta / BinaryFormat.one * BinaryFormat.one) (holds_cut held)
  | number => number

/-- The number, or the bound that it exceeds.  The undefined number exceeds none. -/
def clamp (low high : Number) : Number → Number
  | .nan => .nan
  | number => if low.atMost number then if number.atMost high then number else high else low

/-- A small integer is compared with a number without a fraction as with that number's integer. -/
theorem atMost_ofInt_cut {bound : ℤ} (small : bound.natAbs < Nat.pow 2 53) (negative : Bool)
    {quanta : ℕ} (held : BinaryFormat.double.Holds quanta) :
    let number := cut (.finite negative quanta held)
    (ofInt bound).atMost number = decide (bound ≤ truncateQuanta negative quanta) ∧
      number.atMost (ofInt bound) = decide (truncateQuanta negative quanta ≤ bound) := by
  have positive : (0 : ℤ) < BinaryFormat.one := by exact_mod_cast BinaryFormat.one_pos
  rw [ofInt_of_small small]
  simp only [cut, atMost, signedQuanta_mul, signedQuanta_natAbs, truncateQuanta]
  exact ⟨decide_eq_decide.mpr (mul_le_mul_iff_left₀ positive),
    decide_eq_decide.mpr (mul_le_mul_iff_left₀ positive)⟩

section

variable {low high least greatest : ℤ} (ordered : low ≤ high)
  (lowSmall : low.natAbs < Nat.pow 2 53) (highSmall : high.natAbs < Nat.pow 2 53)
  (wide : least ≤ low ∧ high ≤ greatest)

include ordered lowSmall highSmall wide

theorem saturate_clamp_infinite (negative : Bool) :
    (clamp (ofInt low) (ofInt high) (.infinite negative)).saturate least greatest =
      saturate low high (.infinite negative) := by
  cases negative with
  | false =>
      have above : clamp (ofInt low) (ofInt high) (.infinite false) = ofInt high := by
        rw [ofInt_of_small lowSmall, ofInt_of_small highSmall]
        rfl
      rw [above, saturate_ofInt highSmall ⟨by omega, wide.2⟩, saturate]
  | true =>
      have below : clamp (ofInt low) (ofInt high) (.infinite true) = ofInt low := by
        rw [ofInt_of_small lowSmall, ofInt_of_small highSmall]
        rfl
      rw [below, saturate_ofInt lowSmall ⟨wide.1, by omega⟩, saturate]

theorem saturate_clamp_finite (negative : Bool) {quanta : ℕ}
    (held : BinaryFormat.double.Holds quanta) :
    (clamp (ofInt low) (ofInt high) (cut (.finite negative quanta held))).saturate least greatest =
      saturate low high (.finite negative quanta held) := by
  have fromLow := (atMost_ofInt_cut lowSmall negative held).1
  have toHigh := (atMost_ofInt_cut highSmall negative held).2
  have castCut : (cut (.finite negative quanta held)).saturate least greatest =
      max least (min greatest (truncateQuanta negative quanta)) := by
    simp only [cut, saturate, truncateQuanta, Nat.mul_div_cancel _ BinaryFormat.one_pos]
  have moved : clamp (ofInt low) (ofInt high) (cut (.finite negative quanta held)) =
      if low ≤ truncateQuanta negative quanta then
        if truncateQuanta negative quanta ≤ high then cut (.finite negative quanta held)
        else ofInt high
      else ofInt low := by
    rw [clamp, fromLow, toHigh]
    · simp only [decide_eq_true_eq]
    · intro undefined
      cases undefined
  rw [moved, saturate]
  generalize truncateQuanta negative quanta = whole at *
  split
  · split
    · rw [castCut]
      omega
    · rw [saturate_ofInt highSmall ⟨by omega, wide.2⟩]
      omega
  · rw [saturate_ofInt lowSmall ⟨wide.1, by omega⟩]
    omega

/-- Cutting the fraction off, moving the number into bounds and casting it into a width that has
the bounds is saturating it. -/
theorem saturate_clamp_cut {number : Number} (defined : number.isNaN = false) :
    (clamp (ofInt low) (ofInt high) number.cut).saturate least greatest =
      number.saturate low high := by
  cases number with
  | nan => cases defined
  | infinite negative => exact saturate_clamp_infinite ordered lowSmall highSmall wide negative
  | finite negative quanta held =>
      exact saturate_clamp_finite ordered lowSmall highSmall wide negative held

end

end Number

end ScriptBridge
