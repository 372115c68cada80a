/-!
# Rounding to a binary format

A binary floating-point format holds the naturals `significand * 2 ^ exponent` whose
significand has a bounded number of bits, counted in one fixed quantum: the smallest
positive magnitude of the widest format in use.  In that unit every magnitude is a
natural number, so rounding is integer division with a rule for the remainder, and two
formats differ only in three numbers.

The quantum is `2 ^ (-1074)`, the smallest positive double-precision magnitude.
-/

namespace ScriptBridge

/-- The quotient rounded to the nearest natural; a remainder of exactly one half goes to
the even neighbour. -/
def roundHalfEven (numerator denominator : Nat) : Nat :=
  let quotient := numerator / denominator
  let remainder := numerator % denominator
  if 2 * remainder < denominator then quotient
  else if denominator < 2 * remainder then quotient + 1
  else quotient + quotient % 2

/-- A binary format: how many bits a significand may have, and the smallest and the
largest exponent, both counted from the quantum. -/
structure BinaryFormat where
  precision : Nat
  minExponent : Nat
  maxExponent : Nat
deriving DecidableEq, Repr

namespace BinaryFormat

/-- Double precision: 53 bits, from the quantum itself up to `2 ^ 971`. -/
def double : BinaryFormat := ⟨53, 0, 2045⟩

/-- Single precision: 24 bits, from `2 ^ (-149)` up to `2 ^ 104`. -/
def single : BinaryFormat := ⟨24, 925, 1178⟩

/-- How many quanta make one. -/
def one : Nat := Nat.pow 2 1074

/-- The largest finite magnitude of the format, in quanta. -/
def greatest (format : BinaryFormat) : Nat :=
  (Nat.pow 2 format.precision - 1) * Nat.pow 2 format.maxExponent

/-- The exponent of the format's grid around a magnitude: the smallest one at which the
magnitude's whole quanta fit the precision. -/
def exponentAt (format : BinaryFormat) (quanta : Nat) : Nat :=
  max format.minExponent (quanta.log2 + 1 - format.precision)

/-- The point of the format's grid nearest to `numerator / denominator` quanta, ties to
the even significand.  Magnitudes beyond the greatest one are not cut off here. -/
def nearest (format : BinaryFormat) (numerator denominator : Nat) : Nat :=
  let step := Nat.pow 2 (format.exponentAt (numerator / denominator))
  roundHalfEven numerator (denominator * step) * step

/-- A magnitude that the format holds exactly. -/
def Holds (format : BinaryFormat) (quanta : Nat) : Prop :=
  quanta ≤ format.greatest ∧ Nat.pow 2 (format.exponentAt quanta) ∣ quanta

instance (format : BinaryFormat) (quanta : Nat) : Decidable (format.Holds quanta) := by
  unfold Holds
  infer_instance

/-- Zero is held by every format. -/
theorem holds_zero (format : BinaryFormat) : format.Holds 0 :=
  ⟨Nat.zero_le _, Nat.dvd_zero _⟩

end BinaryFormat

end ScriptBridge
