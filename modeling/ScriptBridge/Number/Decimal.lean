import ScriptBridge.Number.Basic

/-!
# Decimal numbers

A decimal is a natural number of digits times a power of ten.  `Decimal.toNumber` is the
number nearest to it, and `Decimal.shortest` is a decimal with the fewest digits that is
read back as a given magnitude.  The digits are chosen by reading: a candidate is taken
only if its nearest number is the magnitude asked for.
-/

namespace ScriptBridge

/-- `digits * 10 ^ exponent`. -/
structure Decimal where
  digits : Nat
  exponent : Int
deriving DecidableEq, Repr

namespace Decimal

/-- The number nearest to a decimal, ties to the even significand, infinite on overflow.

Exponents that lead out of every finite range are answered from the number of binary
digits alone, so no power of ten is computed for them: ten lies between `2 ^ 3` and
`2 ^ 4`, magnitudes from `2 ^ 1024` on overflow, and those below `2 ^ (-1076)` vanish. -/
def toNumber (negative : Bool) (decimal : Decimal) : Number :=
  if decimal.digits = 0 then .zero negative
  else
    match decimal.exponent with
    | .ofNat exponent =>
        if 1024 ≤ decimal.digits.log2 + 3 * exponent then .infinite negative
        else .ofRatio negative (decimal.digits * Nat.pow 10 exponent) 1
    | .negSucc exponent =>
        if decimal.digits.log2 + 1077 ≤ 3 * (exponent + 1) then .zero negative
        else .ofRatio negative decimal.digits (Nat.pow 10 (exponent + 1))

/-- Is this decimal read as the given magnitude? -/
def readsAs (decimal : Decimal) (quanta : Nat) : Bool :=
  match decimal.toNumber false with
  | .finite _ read _ => read == quanta
  | _ => false

/-- A power of ten with a possibly negative exponent, as numerator and denominator. -/
def powerOfTen : Int → Nat × Nat
  | .ofNat exponent => (Nat.pow 10 exponent, 1)
  | .negSucc exponent => (1, Nat.pow 10 (exponent + 1))

/-- An exponent `k` with `quanta` below `10 ^ k` as a number, the least one in practice.
The binary logarithm bounds it from below, and from above by two more. -/
def scale (quanta : Nat) : Int :=
  let estimate := ((quanta.log2 : Int) - 1074) * 30103 / 100000
  let below (exponent : Int) : Bool :=
    let (numerator, denominator) := powerOfTen exponent
    quanta * denominator < BinaryFormat.one * numerator
  if below estimate then estimate
  else if below (estimate + 1) then estimate + 1
  else estimate + 2

/-- The two neighbours of a magnitude among the multiples of `10 ^ exponent`, the nearer
one first and the upper one first if both are equally near. -/
def neighbours (quanta : Nat) (exponent : Int) : List Decimal :=
  let (numerator, denominator) := powerOfTen exponent
  let step := BinaryFormat.one * numerator
  let scaled := quanta * denominator
  let lower := scaled / step
  let down : Decimal := ⟨lower, exponent⟩
  let up : Decimal := ⟨lower + 1, exponent⟩
  if (2 * lower + 1) * step ≤ 2 * scaled then [up, down] else [down, up]

/-- The most decimal digits that a double-precision number needs. -/
def maxDigits : Nat := 17

/-- A decimal with the fewest digits that is read back as the magnitude, the nearest one
of them.  Should no such decimal be found, the exact value is taken. -/
def shortest (quanta : Nat) : Decimal :=
  let top := scale quanta
  let candidates := (List.range maxDigits).flatMap fun (spare : Nat) =>
    neighbours quanta (top - 1 - spare)
  match candidates.find? (·.readsAs quanta) with
  | some decimal => decimal
  | none => ⟨quanta * Nat.pow 5 1074, -1074⟩

end Decimal

end ScriptBridge
