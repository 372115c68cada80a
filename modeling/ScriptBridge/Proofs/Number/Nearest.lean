import Mathlib.Algebra.Order.Field.Basic
import Mathlib.Data.Nat.Cast.Order.Field
import Mathlib.Data.Rat.Cast.Order
import Mathlib.Tactic.FieldSimp
import Mathlib.Tactic.Linarith
import Mathlib.Tactic.Positivity
import Mathlib.Tactic.Ring
import ScriptBridge.Proofs.Number.Rounding

/-!
# Rounding to the nearest number

What it means to round correctly, said without a rounding function.  A format's points are the
magnitudes with a significand of its precision, at every exponent from its least one on.  A
rational magnitude is rounded to a point that no other point is nearer to, and of two that are
equally near to the one whose significand is even (`BinaryFormat.IsNearest`).  There is exactly
one such point (`isNearest_nearest`, `IsNearest.unique`).  A number rounds a signed magnitude if
it has the sign and its magnitude is that point, or it is infinite and the point exceeds the
finite magnitudes (`Number.Rounds`).
-/

namespace ScriptBridge

/-! ## Rounding a quotient -/

/-- The rounded quotient is at most one half away, and even if it is as far away as that. -/
theorem abs_sub_roundHalfEven (numerator : ℕ) {denominator : ℕ} (positive : 0 < denominator) :
    |(numerator : ℚ) / denominator - roundHalfEven numerator denominator| ≤ 1 / 2 ∧
      (|(numerator : ℚ) / denominator - roundHalfEven numerator denominator| = 1 / 2 →
        Even (roundHalfEven numerator denominator)) := by
  have positiveQ : (0 : ℚ) < denominator := by
    exact_mod_cast positive
  have below : ((numerator % denominator : ℕ) : ℚ) < denominator := by
    exact_mod_cast Nat.mod_lt numerator positive
  have split : (numerator : ℚ) / denominator =
      (numerator / denominator : ℕ) + (numerator % denominator : ℕ) / (denominator : ℚ) := by
    have whole : (numerator : ℚ) =
        denominator * (numerator / denominator : ℕ) + (numerator % denominator : ℕ) := by
      exact_mod_cast (Nat.div_add_mod numerator denominator).symm
    field_simp
    linarith
  rw [split, roundHalfEven]
  generalize numerator / denominator = quotient
  generalize numerator % denominator = remainder at below ⊢
  have nonneg : (0 : ℚ) ≤ (remainder : ℚ) / denominator := by positivity
  have belowOne : (remainder : ℚ) / denominator < 1 := (div_lt_one positiveQ).mpr below
  by_cases less : 2 * remainder < denominator
  · have lessHalf : (remainder : ℚ) / denominator < 1 / 2 := by
      rw [div_lt_div_iff₀ positiveQ two_pos]
      exact_mod_cast (by omega : remainder * 2 < 1 * denominator)
    simp only [if_pos less, add_sub_cancel_left, abs_of_nonneg nonneg]
    exact ⟨lessHalf.le, fun half => absurd half lessHalf.ne⟩
  by_cases more : denominator < 2 * remainder
  · have moreHalf : 1 / 2 < (remainder : ℚ) / denominator := by
      rw [div_lt_div_iff₀ two_pos positiveQ]
      exact_mod_cast (by omega : 1 * denominator < remainder * 2)
    have shifted : (quotient : ℚ) + remainder / denominator - (quotient + 1 : ℕ) =
        -(1 - remainder / denominator) := by
      push_cast
      ring
    simp only [if_neg less, if_pos more, shifted, abs_neg, abs_of_pos (sub_pos.mpr belowOne)]
    constructor
    · linarith
    · intro half
      linarith
  · have half : (remainder : ℚ) / denominator = 1 / 2 := by
      rw [div_eq_div_iff positiveQ.ne' two_ne_zero]
      exact_mod_cast (by omega : remainder * 2 = 1 * denominator)
    simp only [if_neg less, if_neg more, half]
    rcases Nat.mod_two_eq_zero_or_one quotient with even | odd
    · rw [even]
      refine ⟨by norm_num, fun _ => ?_⟩
      exact Nat.even_iff.mpr even
    · rw [odd]
      refine ⟨by norm_num, fun _ => ?_⟩
      exact Nat.even_iff.mpr (by omega)

/-- Of two naturals, one is at least one half away. -/
theorem half_le_abs_sub {value : ℚ} {nearest other : ℕ} (near : |value - nearest| ≤ 1 / 2)
    (differs : other ≠ nearest) : 1 / 2 ≤ |value - other| := by
  have apart : (1 : ℚ) ≤ |(other : ℚ) - nearest| := by
    have apartInt : (1 : ℤ) ≤ |(other : ℤ) - nearest| := by
      apply Int.one_le_abs
      omega
    exact_mod_cast apartInt
  have triangle : |(other : ℚ) - nearest| ≤ |value - nearest| + |value - other| := by
    have sum : (other : ℚ) - nearest = (value - nearest) - (value - other) := by ring
    rw [sum]
    exact abs_sub _ _
  linarith

/-- On a grid, distances are whole and half steps. -/
theorem abs_sub_mul_step (value : ℚ) {step : ℕ} (positive : 0 < step) (multiple : ℕ) :
    |value - (multiple * step : ℕ)| = |value / step - multiple| * step := by
  have positiveQ : (0 : ℚ) < step := by exact_mod_cast positive
  have scaled : value - (multiple * step : ℕ) = (value / step - multiple) * step := by
    push_cast
    field_simp
  rw [scaled, abs_mul, abs_of_pos positiveQ]

section

variable {value : ℚ} {step nearest : ℕ}

theorem abs_sub_mul_le (positive : 0 < step) (near : |value / step - nearest| ≤ 1 / 2)
    (other : ℕ) : |value - (nearest * step : ℕ)| ≤ |value - (other * step : ℕ)| := by
  rw [abs_sub_mul_step value positive, abs_sub_mul_step value positive]
  apply mul_le_mul_of_nonneg_right _ (Nat.cast_nonneg step)
  by_cases isNearest : other = nearest
  · rw [isNearest]
  · exact near.trans (half_le_abs_sub near isNearest)

theorem abs_sub_eq_half_of_tie (positive : 0 < step) (near : |value / step - nearest| ≤ 1 / 2)
    {other : ℕ} (differs : other ≠ nearest)
    (tie : |value - (other * step : ℕ)| = |value - (nearest * step : ℕ)|) :
    |value / step - nearest| = 1 / 2 := by
  have positiveQ : (0 : ℚ) < step := by exact_mod_cast positive
  rw [abs_sub_mul_step value positive, abs_sub_mul_step value positive] at tie
  have same := mul_right_cancel₀ positiveQ.ne' tie
  have far := half_le_abs_sub near differs
  rw [same] at far
  exact le_antisymm near far

end

namespace BinaryFormat

variable {format : BinaryFormat}

/-! ## Points -/

/-- A magnitude with a significand of the format's precision.  The exponent may exceed the
largest one. -/
def Point (format : BinaryFormat) (quanta : ℕ) : Prop :=
  ∃ significand exponent, significand < 2 ^ format.precision ∧ format.minExponent ≤ exponent ∧
    quanta = significand * 2 ^ exponent

/-- A point with an even significand. -/
def EvenPoint (format : BinaryFormat) (quanta : ℕ) : Prop :=
  ∃ significand exponent, Even significand ∧ significand < 2 ^ format.precision ∧
    format.minExponent ≤ exponent ∧ quanta = significand * 2 ^ exponent

/-- No point is nearer to the magnitude, and if another one is as near then this one is even. -/
structure IsNearest (format : BinaryFormat) (magnitude : ℚ) (quanta : ℕ) : Prop where
  point : format.Point quanta
  nearest : ∀ other, format.Point other → |magnitude - quanta| ≤ |magnitude - other|
  even : ∀ other, format.Point other → other ≠ quanta →
    |magnitude - other| = |magnitude - quanta| → format.EvenPoint quanta

/-- Around a magnitude, a point is on the format's grid there, or it lies below a power of two that
is on the grid and does not exceed the magnitude. -/
theorem Point.dvd_or_lt {other : ℕ} (quanta : ℕ) (precise : 1 ≤ format.precision)
    (point : format.Point other) :
    2 ^ format.exponentAt quanta ∣ other ∨
      ∃ bound, 2 ^ format.exponentAt quanta ∣ bound ∧ other < bound ∧ bound ≤ quanta := by
  rcases point with ⟨significand, exponent, short, lower, rfl⟩
  by_cases coarse : format.exponentAt quanta ≤ exponent
  · left
    apply Nat.dvd_mul_left_of_dvd
    exact Nat.pow_dvd_pow 2 coarse
  · right
    simp only [exponentAt] at coarse ⊢
    have nonzero : quanta ≠ 0 := by
      rintro rfl
      simp only [Nat.log2_zero] at coarse
      omega
    refine ⟨2 ^ quanta.log2, Nat.pow_dvd_pow 2 (by omega), ?_, Nat.log2_self_le nonzero⟩
    calc significand * 2 ^ exponent
        < 2 ^ format.precision * 2 ^ exponent :=
          Nat.mul_lt_mul_of_pos_right short (Nat.two_pow_pos exponent)
      _ = 2 ^ (format.precision + exponent) := (Nat.pow_add 2 _ _).symm
      _ ≤ 2 ^ quanta.log2 := Nat.pow_le_pow_right two_pos (by omega)

/-- A rounded quotient is a point, an even one if the quotient is rounded to an even one.  A
significand that is rounded up to a power of two has the next exponent. -/
theorem point_of_le_pow {significand exponent : ℕ} (precise : 2 ≤ format.precision)
    (lower : format.minExponent ≤ exponent) (short : significand ≤ 2 ^ format.precision) :
    format.Point (significand * 2 ^ exponent) ∧
      (Even significand → format.EvenPoint (significand * 2 ^ exponent)) := by
  rcases Nat.lt_or_eq_of_le short with less | equal
  · exact ⟨⟨significand, exponent, less, lower, rfl⟩,
      fun even => ⟨significand, exponent, even, less, lower, rfl⟩⟩
  · have carried : significand * 2 ^ exponent = 2 * 2 ^ (format.precision - 1 + exponent) := by
      rw [equal, ← Nat.pow_add, ← Nat.pow_succ']
      congr 1
      omega
    have two : 2 < 2 ^ format.precision := by
      calc 2 < 2 ^ 2 := by decide
        _ ≤ 2 ^ format.precision := Nat.pow_le_pow_right two_pos precise
    rw [carried]
    exact ⟨⟨2, _, two, by omega, rfl⟩, fun _ => ⟨2, _, even_two, two, by omega, rfl⟩⟩

theorem roundHalfEven_le (numerator denominator : ℕ) :
    roundHalfEven numerator denominator ≤ numerator / denominator + 1 := by
  simp only [roundHalfEven]
  split
  · omega
  · split <;> omega

/-- The rounded quotient is at most one more than a significand of the format's precision. -/
theorem roundHalfEven_le_pow (format : BinaryFormat) (numerator denominator : ℕ) :
    roundHalfEven numerator (denominator * 2 ^ format.exponentAt (numerator / denominator)) ≤
      2 ^ format.precision := by
  have quotient :
      numerator / (denominator * 2 ^ format.exponentAt (numerator / denominator)) <
        2 ^ format.precision := by
    rw [← Nat.div_div_eq_div_mul, Nat.div_lt_iff_lt_mul (Nat.two_pow_pos _), ← Nat.pow_add]
    calc numerator / denominator
        < 2 ^ ((numerator / denominator).log2 + 1) := Nat.lt_log2_self
      _ ≤ 2 ^ (format.precision + format.exponentAt (numerator / denominator)) := by
        apply Nat.pow_le_pow_right two_pos
        simp only [exponentAt]
        omega
  have rounded := roundHalfEven_le numerator
    (denominator * 2 ^ format.exponentAt (numerator / denominator))
  omega

/-- The multiple of the grid's step that a magnitude is rounded to is the nearest point.  Points
that are not on the grid around the magnitude lie farther below it. -/
theorem isNearest_mul_step {magnitude : ℚ} {quanta significand : ℕ}
    (precise : 2 ≤ format.precision) (floor : (quanta : ℚ) ≤ magnitude)
    (short : significand ≤ 2 ^ format.precision)
    (near : |magnitude / (2 ^ format.exponentAt quanta : ℕ) - significand| ≤ 1 / 2)
    (even : |magnitude / (2 ^ format.exponentAt quanta : ℕ) - significand| = 1 / 2 →
      Even significand) :
    format.IsNearest magnitude (significand * 2 ^ format.exponentAt quanta) := by
  have positive := Nat.two_pow_pos (format.exponentAt quanta)
  have isPoint := point_of_le_pow precise (Nat.le_max_left _ _ : _ ≤ format.exponentAt quanta) short
  have nearer := abs_sub_mul_le positive near
  -- A point below the grid is beaten by the power of two that separates it from the magnitude.
  have farther {other bound : ℕ} (divides : 2 ^ format.exponentAt quanta ∣ bound)
      (below : other < bound) (within : bound ≤ quanta) :
      |magnitude - (significand * 2 ^ format.exponentAt quanta : ℕ)| < |magnitude - other| := by
    rcases divides with ⟨multiple, rfl⟩
    rw [Nat.mul_comm] at below within
    have belowQ : (other : ℚ) < (multiple * 2 ^ format.exponentAt quanta : ℕ) := by
      exact_mod_cast below
    have withinQ : ((multiple * 2 ^ format.exponentAt quanta : ℕ) : ℚ) ≤ quanta := by
      exact_mod_cast within
    calc |magnitude - (significand * 2 ^ format.exponentAt quanta : ℕ)|
        ≤ |magnitude - (multiple * 2 ^ format.exponentAt quanta : ℕ)| := nearer multiple
      _ = magnitude - (multiple * 2 ^ format.exponentAt quanta : ℕ) :=
          abs_of_nonneg (by linarith)
      _ < magnitude - other := by linarith
      _ ≤ |magnitude - other| := le_abs_self _
  refine ⟨isPoint.1, ?_, ?_⟩
  · intro other point
    rcases point.dvd_or_lt quanta (by omega) with
      ⟨multiple, rfl⟩ | ⟨bound, divides, below, within⟩
    · rw [Nat.mul_comm _ multiple]
      exact nearer multiple
    · exact (farther divides below within).le
  · intro other point differs tie
    rcases point.dvd_or_lt quanta (by omega) with
      ⟨multiple, rfl⟩ | ⟨bound, divides, below, within⟩
    · rw [Nat.mul_comm _ multiple] at differs tie
      apply isPoint.2
      apply even
      apply abs_sub_eq_half_of_tie positive near _ tie
      rintro rfl
      exact differs rfl
    · exact absurd tie (farther divides below within).ne'

theorem isNearest_nearest (precise : 2 ≤ format.precision) (numerator : ℕ) {denominator : ℕ}
    (positive : 0 < denominator) :
    format.IsNearest (numerator / denominator : ℚ) (format.nearest numerator denominator) := by
  have stepPos := Nat.two_pow_pos (format.exponentAt (numerator / denominator))
  have half := abs_sub_roundHalfEven numerator (Nat.mul_pos positive stepPos)
  rw [Nat.cast_mul, ← div_div] at half
  apply isNearest_mul_step precise
  · exact Nat.cast_div_le
  · exact roundHalfEven_le_pow format numerator denominator
  · exact half.1
  · exact half.2

theorem two_mul_pow_dvd {significand fine coarse : ℕ} (even : Even significand)
    (ordered : fine ≤ coarse) : 2 * 2 ^ fine ∣ significand * 2 ^ coarse :=
  Nat.mul_dvd_mul (even_iff_two_dvd.mp even) (Nat.pow_dvd_pow 2 ordered)

theorem add_le_of_dvd {step first second : ℕ} (left : step ∣ first) (right : step ∣ second)
    (ordered : first < second) : first + step ≤ second := by
  have gap := Nat.le_of_dvd (by omega) (Nat.dvd_sub right left)
  omega

/-- Between two even points lies a third one, an odd neighbour of the one with the finer step. -/
theorem exists_point_between (precise : 1 ≤ format.precision) {first second : ℕ}
    (left : format.EvenPoint first) (right : format.EvenPoint second) (ordered : first < second) :
    ∃ between, format.Point between ∧ first < between ∧ between < second := by
  rcases left with ⟨low, lowExponent, lowEven, lowShort, lowLower, rfl⟩
  rcases right with ⟨high, highExponent, highEven, highShort, highLower, rfl⟩
  by_cases finer : lowExponent ≤ highExponent
  · have gap := add_le_of_dvd (two_mul_pow_dvd lowEven (le_refl lowExponent))
      (two_mul_pow_dvd highEven finer) ordered
    -- The next odd significand is still short enough, as the greatest significand is odd.
    have powEven : Even (2 ^ format.precision) := Nat.even_pow.mpr ⟨even_two, by omega⟩
    have short : low + 1 < 2 ^ format.precision := by
      apply lt_of_le_of_ne lowShort
      intro equal
      rw [← equal] at powEven
      exact Nat.not_even_iff_odd.mpr lowEven.add_one powEven
    have positive := Nat.two_pow_pos lowExponent
    refine ⟨(low + 1) * 2 ^ lowExponent, ⟨_, _, short, lowLower, rfl⟩, ?_, ?_⟩
    · rw [Nat.succ_mul]
      omega
    · rw [Nat.succ_mul]
      omega
  · have gap := add_le_of_dvd (two_mul_pow_dvd lowEven (by omega : highExponent ≤ lowExponent))
      (two_mul_pow_dvd highEven (le_refl highExponent)) ordered
    have positive := Nat.two_pow_pos highExponent
    refine ⟨(high - 1) * 2 ^ highExponent, ⟨_, _, by omega, highLower, rfl⟩, ?_, ?_⟩
    · rw [Nat.sub_mul]
      omega
    · rw [Nat.sub_mul]
      omega

/-- At most one point is nearest. -/
theorem IsNearest.unique (precise : 1 ≤ format.precision) {magnitude : ℚ} {first second : ℕ}
    (left : format.IsNearest magnitude first) (right : format.IsNearest magnitude second) :
    first = second := by
  -- Two nearest points tie, so both are even, and the point between them is nearer.
  by_contra differs
  wlog ordered : first < second generalizing first second with swapped
  · exact swapped right left (Ne.symm differs) (by omega)
  have tie : |magnitude - second| = |magnitude - first| :=
    le_antisymm (right.nearest first left.point) (left.nearest second right.point)
  have leftEven := left.even second right.point (Ne.symm differs) tie
  have rightEven := right.even first left.point differs tie.symm
  rcases exists_point_between precise leftEven rightEven ordered with
    ⟨between, point, fromLeft, fromRight⟩
  have fromLeftQ : (first : ℚ) < between := by exact_mod_cast fromLeft
  have fromRightQ : (between : ℚ) < second := by exact_mod_cast fromRight
  have middle : magnitude - first = second - magnitude := by
    rcases abs_eq_abs.mp tie with same | opposite
    · linarith
    · linarith
  have nearer := left.nearest between point
  rw [middle, abs_of_nonneg (by linarith : (0 : ℚ) ≤ second - magnitude)] at nearer
  rcases le_abs'.mp nearer with below | above
  · linarith
  · linarith

/-- Rounding goes below no point that the magnitude reaches. -/
theorem IsNearest.le_of_point {magnitude : ℚ} {quanta bound : ℕ}
    (rounded : format.IsNearest magnitude quanta) (point : format.Point bound)
    (reached : (bound : ℚ) ≤ magnitude) : bound ≤ quanta := by
  by_contra below
  have belowQ : (quanta : ℚ) < bound := by exact_mod_cast Nat.lt_of_not_le below
  have nearer := rounded.nearest bound point
  rw [abs_of_nonneg (by linarith : 0 ≤ magnitude - bound),
    abs_of_nonneg (by linarith : 0 ≤ magnitude - quanta)] at nearer
  linarith

theorem isNearest_zero {magnitude : ℚ} (nonneg : 0 ≤ magnitude) (small : magnitude < 1 / 2) :
    format.IsNearest magnitude 0 := by
  have near : |magnitude - (0 : ℕ)| ≤ 1 / 2 := by
    rw [Nat.cast_zero, sub_zero, abs_of_nonneg nonneg]
    exact small.le
  have zero : (0 : ℕ) = 0 * 2 ^ format.minExponent := (Nat.zero_mul _).symm
  refine ⟨⟨0, _, Nat.two_pow_pos _, le_refl _, zero⟩, ?_, ?_⟩
  · intro other point
    by_cases isZero : other = 0
    · rw [isZero]
    · exact near.trans (half_le_abs_sub near isZero)
  · intro other point differs tie
    exact ⟨0, _, Even.zero, Nat.two_pow_pos _, le_refl _, zero⟩

theorem point_two_pow {exponent : ℕ} (precise : 1 ≤ format.precision)
    (lower : format.minExponent ≤ exponent) : format.Point (2 ^ exponent) :=
  ⟨1, exponent, Nat.one_lt_two_pow (by omega), lower, (Nat.one_mul _).symm⟩

theorem Point.pow_exponentAt_dvd {quanta : ℕ} (point : format.Point quanta) :
    Nat.pow 2 (format.exponentAt quanta) ∣ quanta := by
  rcases point with ⟨significand, exponent, short, lower, rfl⟩
  exact BinaryFormat.pow_exponentAt_dvd short lower

end BinaryFormat

/-! ## Rounded numbers -/

namespace Number

/-- The number is the signed magnitude correctly rounded.  Magnitudes that are rounded beyond the
finite ones become infinite. -/
inductive Rounds (negative : Bool) (magnitude : ℚ) : Number → Prop where
  | finite {quanta : ℕ} (held : BinaryFormat.double.Holds quanta)
      (nearest : BinaryFormat.double.IsNearest (magnitude * BinaryFormat.one) quanta) :
      Rounds negative magnitude (.finite negative quanta held)
  | infinite {quanta : ℕ} (exceeds : BinaryFormat.double.greatest < quanta)
      (nearest : BinaryFormat.double.IsNearest (magnitude * BinaryFormat.one) quanta) :
      Rounds negative magnitude (.infinite negative)

variable {negative : Bool} {magnitude : ℚ}

/-- A signed magnitude is correctly rounded in one way. -/
theorem Rounds.unique {first second : Number} (left : Rounds negative magnitude first)
    (right : Rounds negative magnitude second) : first = second := by
  have precise : 1 ≤ BinaryFormat.double.precision := by decide
  cases left with
  | finite held nearest =>
      cases right with
      | finite held' nearest' =>
          have same := nearest.unique precise nearest'
          subst same
          rfl
      | infinite exceeds nearest' =>
          rw [nearest'.unique precise nearest] at exceeds
          exact absurd held.1 (Nat.not_le_of_lt exceeds)
  | infinite exceeds nearest =>
      cases right with
      | finite held nearest' =>
          rw [nearest.unique precise nearest'] at exceeds
          exact absurd held.1 (Nat.not_le_of_lt exceeds)
      | infinite exceeds' nearest' => rfl

theorem Rounds.ne_nan {number : Number} (rounded : Rounds negative magnitude number) :
    number ≠ .nan := by
  cases rounded with
  | finite held nearest => exact Number.noConfusion
  | infinite exceeds nearest => exact Number.noConfusion

theorem rounds_ofQuanta {quanta : ℕ}
    (nearest : BinaryFormat.double.IsNearest (magnitude * BinaryFormat.one) quanta) :
    Rounds negative magnitude (ofQuanta negative quanta) := by
  unfold ofQuanta
  split
  · rename_i held
    exact .finite held nearest
  · rename_i notHeld
    refine .infinite ?_ nearest
    by_contra within
    exact notHeld ⟨Nat.le_of_not_lt within, nearest.point.pow_exponentAt_dvd⟩

theorem rounds_ofRatio (numerator : ℕ) {denominator : ℕ} (positive : 0 < denominator) :
    Rounds negative (numerator / denominator) (ofRatio negative numerator denominator) := by
  apply rounds_ofQuanta
  have scaled : (numerator / denominator : ℚ) * BinaryFormat.one =
      (numerator * BinaryFormat.one : ℕ) / denominator := by
    push_cast
    exact div_mul_eq_mul_div _ _ _
  rw [scaled]
  exact BinaryFormat.isNearest_nearest (by decide) _ positive

theorem rounds_ofRatio_one (negative : Bool) (whole : ℕ) :
    Rounds negative whole (ofRatio negative whole 1) := by
  have rounded : Rounds negative (whole / (1 : ℕ)) (ofRatio negative whole 1) :=
    rounds_ofRatio whole one_pos
  rwa [Nat.cast_one, div_one] at rounded

end Number

end ScriptBridge
