import ScriptBridge.Number.Rounding

/-!
# Script numbers

A script number is a double-precision number.  It is kept as what it means, a sign and a
magnitude in quanta, an infinity, or the one undefined number, and not as a machine word:
comparing, truncating and converting are then exact integer arithmetic, and two numbers
are the same datum exactly when they are equal terms.  `ofBits` and `toBits` give the
interchange word.

Scripts compare numbers by value (`numericEq`: the undefined number differs from itself,
the two zeros agree).  Collections key numbers by `sameKey`, which differs from it only
in that the undefined number agrees with itself.
-/

namespace ScriptBridge

/-- A double-precision number. -/
inductive Number where
  /-- The undefined number; its payload is never observable. -/
  | nan
  | infinite (negative : Bool)
  /-- A finite number: its sign and its magnitude in quanta. -/
  | finite (negative : Bool) (quanta : Nat) (held : BinaryFormat.double.Holds quanta)
deriving DecidableEq

namespace Number

/-- The number with the given sign and magnitude; a magnitude that no finite number has
stands for overflow. -/
def ofQuanta (negative : Bool) (quanta : Nat) : Number :=
  if held : BinaryFormat.double.Holds quanta then .finite negative quanta held
  else .infinite negative

/-- Zero with a sign. -/
def zero (negative : Bool) : Number :=
  .finite negative 0 (BinaryFormat.holds_zero _)

instance : Inhabited Number := ⟨zero false⟩

/-- The number nearest to a ratio, ties to the even significand, infinite on overflow. -/
def ofRatio (negative : Bool) (numerator denominator : Nat) : Number :=
  ofQuanta negative
    (BinaryFormat.double.nearest (numerator * BinaryFormat.one) denominator)

/-- The number nearest to an integer. -/
def ofInt (value : Int) : Number :=
  ofRatio (value < 0) value.natAbs 1

/-- The number nearest to a natural. -/
def ofNat (value : Nat) : Number :=
  ofRatio false value 1

/-- The number with its sign turned round. -/
def neg : Number → Number
  | .nan => .nan
  | .infinite negative => .infinite (!negative)
  | .finite negative quanta held => .finite (!negative) quanta held

/-- Is this the undefined number? -/
def isNaN : Number → Bool
  | .nan => true
  | _ => false

/-! ## Comparison -/

/-- Equality of values: the undefined number equals nothing, the two zeros are equal. -/
def numericEq : Number → Number → Bool
  | .infinite left, .infinite right => left == right
  | .finite leftSign left _, .finite rightSign right _ =>
      left == right && (leftSign == rightSign || left == 0)
  | _, _ => false

/-- Equality of collection keys: as values, and the undefined number equals itself. -/
def sameKey : Number → Number → Bool
  | .nan, .nan => true
  | left, right => numericEq left right

/-- The magnitude of a finite number with its sign, in quanta. -/
def signedQuanta (negative : Bool) (quanta : Nat) : Int :=
  if negative then -(quanta : Int) else quanta

/-- Is the left number at most the right one?  The order of a sorted listing: the
negative infinity first, the undefined number last. -/
def atMost : Number → Number → Bool
  | _, .nan => true
  | .nan, _ => false
  | .infinite true, _ => true
  | _, .infinite false => true
  | .finite leftSign left _, .finite rightSign right _ =>
      decide (signedQuanta leftSign left ≤ signedQuanta rightSign right)
  | _, _ => false

/-! ## Integers and narrower numbers -/

/-- The integer part, toward zero. -/
def truncateQuanta (negative : Bool) (quanta : Nat) : Int :=
  signedQuanta negative (quanta / BinaryFormat.one)

/-- The integer obtained by cutting the fraction and moving into the bounds.  Infinities
end at a bound; the undefined number has no integer and gives zero. -/
def saturate (low high : Int) : Number → Int
  | .nan => 0
  | .infinite true => low
  | .infinite false => high
  | .finite negative quanta _ => max low (min high (truncateQuanta negative quanta))

/-- The number rounded to single precision; what exceeds its range becomes infinite. -/
def toSingle : Number → Number
  | .finite negative quanta _ =>
      let rounded := BinaryFormat.single.nearest quanta 1
      if rounded ≤ BinaryFormat.single.greatest then ofQuanta negative rounded
      else .infinite negative
  | number => number

/-- The largest finite number. -/
def greatest : Number :=
  ofQuanta false BinaryFormat.double.greatest

/-- The least finite number. -/
def least : Number :=
  greatest.neg

/-! ## Interchange words -/

/-- The word of a positive magnitude.  The exponent counts blocks of `2 ^ 52` words, and
a significand of full precision carries into the exponent by itself, so one sum covers
normal and subnormal numbers. -/
def magnitudeWord (quanta : Nat) : Nat :=
  let exponent := BinaryFormat.double.exponentAt quanta
  exponent * Nat.pow 2 52 + quanta / Nat.pow 2 exponent

/-- The sign bit of the word. -/
def signWord (negative : Bool) : Nat :=
  if negative then Nat.pow 2 63 else 0

/-- The 64-bit interchange word; the undefined number is written as the quiet one. -/
def toBits : Number → Nat
  | .nan => 0x7ff8000000000000
  | .infinite negative => signWord negative + 0x7ff0000000000000
  | .finite negative quanta _ => signWord negative + magnitudeWord quanta

/-- The number that a 64-bit word stands for. -/
def ofBits (word : Nat) : Number :=
  let negative := decide (Nat.pow 2 63 ≤ word % Nat.pow 2 64)
  let exponent := word / Nat.pow 2 52 % Nat.pow 2 11
  let fraction := word % Nat.pow 2 52
  if exponent = 2047 then
    if fraction = 0 then .infinite negative else .nan
  else if exponent = 0 then ofQuanta negative fraction
  else ofQuanta negative ((Nat.pow 2 52 + fraction) * Nat.pow 2 (exponent - 1))

end Number

end ScriptBridge
