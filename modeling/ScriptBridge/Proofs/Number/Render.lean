import Mathlib.Data.List.Forall2
import ScriptBridge.Proofs.Arg.Equality
import ScriptBridge.Proofs.Number.Parse

/-!
# Printed numbers are read back

The text of a finite number is a sign and a decimal literal.  A whole number below the bound is
written by its digits, and then the literal is the number itself; any other number is written
as a decimal that was chosen by reading it.  Either way the number is its literal's magnitude
correctly rounded, which is what reading gives (`parse?_render`).  Only the sign of a zero is
lost.  The texts of infinities and of the undefined number are not read at all, so different
texts stand for different numbers (`render_eq_iff`).
-/

namespace ScriptBridge

open Numeral

/-! ## Digits of naturals -/

theorem lowerDigits_digitChar : ∀ digit < 10, lowerDigits[digit]? = some (Nat.digitChar digit) := by
  decide

theorem isDigit_digitChar {digit : ℕ} (below : digit < 10) :
    IsDigit 10 (Nat.digitChar digit) digit :=
  ⟨below, .inl (lowerDigits_digitChar digit below)⟩

theorem Numeral.Spells.append {base : ℕ} {front back : List Char} {high low : List ℕ}
    (first : Spells base front high) (second : Spells base back low) :
    Spells base (front ++ back) (high ++ low) :=
  List.rel_append first second

theorem spells_zeros (count : ℕ) :
    Spells 10 (List.replicate count '0') (List.replicate count 0) := by
  induction count with
  | zero => exact .nil
  | succ count ih => exact .cons ⟨by decide, .inl rfl⟩ ih

theorem valueOf_zeros (count : ℕ) : valueOf 10 (List.replicate count 0) = 0 := by
  rw [valueOf, List.reverse_replicate, Nat.ofDigits_replicate_zero]

/-- A natural is written by digits that stand for it. -/
theorem exists_spells_digitsOf (value : ℕ) :
    ∃ digits, Spells 10 (Number.digitsOf value) digits ∧ digits ≠ [] ∧
      valueOf 10 digits = value := by
  induction value using Nat.strongRecOn with
  | ind value ih =>
      rw [Number.digitsOf]
      by_cases small : value < 10
      · rw [Nat.toDigits_of_lt_base small]
        exact ⟨[value], .cons (isDigit_digitChar small) .nil, by simp, by simp [valueOf]⟩
      · rw [Nat.toDigits_of_base_le (by decide) (Nat.le_of_not_lt small)]
        rcases ih (value / 10) (by omega) with ⟨digits, spelled, -, standsFor⟩
        have last : Spells 10 [Nat.digitChar (value % 10)] [value % 10] :=
          .cons (isDigit_digitChar (Nat.mod_lt _ (by decide))) .nil
        refine ⟨digits ++ [value % 10], spelled.append last, by simp, ?_⟩
        rw [valueOf_append, standsFor]
        simp only [valueOf, List.reverse_singleton, Nat.ofDigits_singleton,
          List.length_singleton]
        omega

theorem eq_zero_of_isDigit {digit : ℕ} (isDigit : IsDigit 10 '0' digit) : digit = 0 := by
  have read : digitValue? 10 '0' = some digit := (digitValue?_eq_some_iff (by decide)).mpr isDigit
  exact (Option.some.inj read).symm

/-! ## Decimals in positional notation -/

/-- Zeros at the end of a fraction, which here comes first, add nothing to it. -/
theorem exists_spells_dropWhile {text : List Char} {digits : List ℕ}
    (spelled : Spells 10 text digits) :
    ∃ kept, Spells 10 (text.dropWhile (· == '0')) kept ∧
      ((Nat.ofDigits 10 kept : ℕ) : ℚ) / 10 ^ kept.length =
        (Nat.ofDigits 10 digits : ℕ) / 10 ^ digits.length := by
  induction spelled with
  | nil => exact ⟨[], .nil, rfl⟩
  | @cons character digit text digits isDigit spelled ih =>
      by_cases isZero : character = '0'
      · subst isZero
        rcases ih with ⟨kept, keptSpelled, sameValue⟩
        refine ⟨kept, keptSpelled, ?_⟩
        rw [sameValue, eq_zero_of_isDigit isDigit, Nat.ofDigits_cons, List.length_cons,
          Nat.cast_add, Nat.cast_mul, Nat.cast_zero, zero_add, Nat.cast_ofNat, pow_succ',
          mul_div_mul_left _ _ (by norm_num)]
      · rw [List.dropWhile_cons_of_neg (by simpa using isZero)]
        exact ⟨digit :: digits, .cons isDigit spelled, rfl⟩

namespace Decimal

/-- The fraction of a positional text: the digits after the point up to the last one that is not
zero. -/
def trimFraction (text : List Char) : List Char :=
  (text.reverse.dropWhile (· == '0')).reverse

theorem exists_spells_trimFraction {text : List Char} {digits : List ℕ}
    (spelled : Spells 10 text digits) :
    ∃ kept, Spells 10 (trimFraction text) kept ∧
      (valueOf 10 kept : ℚ) / 10 ^ kept.length = valueOf 10 digits / 10 ^ digits.length := by
  rcases exists_spells_dropWhile (List.forall₂_reverse_iff.mpr spelled) with
    ⟨kept, keptSpelled, sameValue⟩
  refine ⟨kept.reverse, List.forall₂_reverse_iff.mpr keptSpelled, ?_⟩
  simpa only [valueOf, List.reverse_reverse, List.length_reverse] using sameValue

theorem literal_of_spells {text : List Char} {digits : List ℕ} (spelled : Spells 10 text digits)
    (nonempty : digits ≠ []) : Literal text (valueOf 10 digits) := by
  have literal := Literal.decimal spelled .absent (.inl nonempty) .absent
  simpa [valueOf] using literal

/-- Digits divided by a power of ten are those before the point and those after it. -/
theorem valueOf_div_pow {digits : List ℕ} {places : ℕ} (within : places ≤ digits.length) :
    (valueOf 10 digits : ℚ) / 10 ^ places =
      valueOf 10 (digits.take (digits.length - places)) +
        valueOf 10 (digits.drop (digits.length - places)) /
          10 ^ (digits.drop (digits.length - places)).length := by
  have dropLength : (digits.drop (digits.length - places)).length = places := by
    rw [List.length_drop]
    omega
  have parts : valueOf 10 digits =
      valueOf 10 (digits.take (digits.length - places)) * 10 ^ places +
        valueOf 10 (digits.drop (digits.length - places)) := by
    conv_lhs => rw [← List.take_append_drop (digits.length - places) digits]
    rw [valueOf_append, dropLength]
  rw [dropLength, parts]
  push_cast
  field_simp

/-- The point put among digits, and left out if only zeros come after it. -/
def insertPoint (text : List Char) (places : ℕ) : List Char :=
  let whole := text.length - places
  let fraction := trimFraction (text.drop whole)
  if fraction.isEmpty then text.take whole else text.take whole ++ '.' :: fraction

/-- Digits with the point behind at least one of them are a literal. -/
theorem literal_insertPoint {text : List Char} {digits : List ℕ} {places : ℕ}
    (spelled : Spells 10 text digits) (inside : places < text.length) :
    Literal (insertPoint text places) (valueOf 10 digits / 10 ^ places) := by
  have sameLength : text.length = digits.length := List.Forall₂.length_eq spelled
  have wholeSpelled : Spells 10 (text.take (text.length - places)) _ :=
    List.forall₂_take _ spelled
  have fractionSpelled : Spells 10 (text.drop (text.length - places)) _ :=
    List.forall₂_drop _ spelled
  have nonempty : digits.take (text.length - places) ≠ [] := by
    rw [← List.length_pos_iff_ne_nil, List.length_take]
    omega
  rcases exists_spells_trimFraction fractionSpelled with ⟨kept, keptSpelled, sameFraction⟩
  rw [valueOf_div_pow (by omega), ← sameLength, ← sameFraction, insertPoint]
  split
  · rename_i nothingKept
    rw [List.isEmpty_iff] at nothingKept
    rw [nothingKept] at keptSpelled
    cases keptSpelled
    simpa [valueOf] using literal_of_spells wholeSpelled nonempty
  · have literal := Literal.decimal wholeSpelled (.pointed keptSpelled) (.inl nonempty) .absent
    simpa using literal

/-- A decimal is written as a literal of its value. -/
theorem literal_positional (decimal : Decimal) :
    Literal (Number.positional decimal) decimal.value := by
  rcases decimal with ⟨coefficient, exponent⟩
  rcases exists_spells_digitsOf coefficient with ⟨digits, spelled, nonempty, standsFor⟩
  cases exponent with
  | ofNat zeros =>
      have filled := spelled.append (spells_zeros zeros)
      have sameValue : value ⟨coefficient, .ofNat zeros⟩ =
          valueOf 10 (digits ++ List.replicate zeros 0) := by
        rw [valueOf_append, valueOf_zeros, standsFor, List.length_replicate]
        simp [value]
      rw [sameValue]
      exact literal_of_spells filled (by simp [nonempty])
  | negSucc places =>
      -- The digits are filled up with zeros so that one digit at least stands before the point.
      let padding := places + 1 + 1 - (Number.digitsOf coefficient).length
      have padded := (spells_zeros padding).append spelled
      have sameValue : value ⟨coefficient, .negSucc places⟩ =
          valueOf 10 (List.replicate padding 0 ++ digits) / 10 ^ (places + 1) := by
        rw [value, zpow_negSucc, ← div_eq_mul_inv, valueOf_append, valueOf_zeros, standsFor,
          Nat.zero_mul, Nat.zero_add]
      rw [sameValue]
      apply literal_insertPoint padded
      simp only [padding, List.length_append, List.length_replicate]
      omega

theorem value_mul_five_pow (quanta places : ℕ) :
    value ⟨quanta * Nat.pow 5 places, -places⟩ = quanta / Nat.pow 2 places := by
  have ten : (10 : ℚ) ^ places = 2 ^ places * 5 ^ places := by
    rw [← mul_pow]
    norm_num
  rw [value, zpow_neg, zpow_natCast, ten, Nat.pow_eq, Nat.pow_eq]
  push_cast
  field_simp

end Decimal

/-! ## Numbers as rounded magnitudes -/

namespace Number

variable {negative : Bool} {quanta : ℕ}

/-- A finite number is its own magnitude rounded. -/
theorem rounds_self (held : BinaryFormat.double.Holds quanta) :
    Rounds negative (quanta / BinaryFormat.one) (.finite negative quanta held) := by
  have onePos : (BinaryFormat.one : ℚ) ≠ 0 := by exact_mod_cast BinaryFormat.one_pos.ne'
  have nearest : BinaryFormat.double.IsNearest _ _ :=
    BinaryFormat.isNearest_nearest (by decide) quanta one_pos
  rw [BinaryFormat.nearest_of_holds held, Nat.cast_one, div_one] at nearest
  apply Rounds.finite held
  rwa [div_mul_cancel₀ _ onePos]

/-- The decimal that a number is written as is rounded to the number. -/
theorem rounds_shortest (held : BinaryFormat.double.Holds quanta) :
    Rounds negative (Decimal.shortest quanta).value (.finite negative quanta held) := by
  unfold Decimal.shortest
  dsimp only
  split
  · rename_i decimal found
    have readsBack := List.find?_some found
    have rounded := decimal.rounds_toNumber false
    simp only [Decimal.readsAs] at readsBack
    split at readsBack
    · rename_i sign read readHeld isFinite
      rw [isFinite] at rounded
      cases rounded with
      | finite _ nearest =>
          rw [beq_iff_eq] at readsBack
          subst readsBack
          exact .finite held nearest
    · cases readsBack
  · have exactly : Decimal.value ⟨quanta * Nat.pow 5 1074, -1074⟩ = quanta / BinaryFormat.one :=
      Decimal.value_mul_five_pow quanta 1074
    rw [exactly]
    exact rounds_self held

/-! ## Texts of numbers -/

theorem sign_signText (negative : Bool) : Sign negative (signText negative) := by
  cases negative with
  | false => exact .absent
  | true => exact .minus

theorem canonical_finite (held : BinaryFormat.double.Holds quanta) :
    canonical (.finite negative quanta held) =
      .finite (negative && quanta != 0) quanta held := by
  by_cases isZero : quanta = 0
  · subst isZero
    simp [canonical, zero]
  · simp [canonical, isZero]

/-- The text of a finite number is a sign and a literal of what is rounded to the number. -/
theorem exists_literal_of_renderChars (held : BinaryFormat.double.Holds quanta) :
    ∃ text magnitude, Literal text magnitude ∧
      renderChars (.finite negative quanta held) = signText (negative && quanta != 0) ++ text ∧
      Rounds (negative && quanta != 0) magnitude (canonical (.finite negative quanta held)) := by
  rw [canonical_finite]
  simp only [renderChars]
  split
  · rename_i whole
    rcases exists_spells_digitsOf (quanta / BinaryFormat.one) with
      ⟨digits, spelled, nonempty, standsFor⟩
    have exactly : quanta / BinaryFormat.one * BinaryFormat.one = quanta :=
      Nat.div_mul_cancel (Nat.dvd_of_mod_eq_zero whole.1)
    have sameZero : quanta / BinaryFormat.one = 0 ↔ quanta = 0 := by
      constructor
      · intro isZero
        rw [← exactly, isZero, Nat.zero_mul]
      · rintro rfl
        exact Nat.zero_div _
    have sameSign : (quanta / BinaryFormat.one != 0) = (quanta != 0) := by
      rw [Bool.eq_iff_iff, bne_iff_ne, bne_iff_ne, ne_eq, sameZero]
    have sameMagnitude : (valueOf 10 digits : ℚ) = quanta / BinaryFormat.one := by
      rw [standsFor, eq_div_iff (by exact_mod_cast BinaryFormat.one_pos.ne')]
      exact_mod_cast exactly
    rw [sameSign]
    refine ⟨_, _, Decimal.literal_of_spells spelled nonempty, rfl, ?_⟩
    rw [sameMagnitude]
    exact rounds_self held
  · rename_i other
    have nonzero : quanta ≠ 0 := by
      rintro rfl
      exact other ⟨Nat.zero_mod _, by rw [Nat.zero_div]; exact Nat.pow_pos (by decide)⟩
    have signed : (negative && quanta != 0) = negative := by simp [nonzero]
    rw [signed]
    exact ⟨_, _, Decimal.literal_positional _, rfl, rounds_shortest held⟩

theorem parse?_render_finite (held : BinaryFormat.double.Holds quanta) :
    parse? (.ofString (render (.finite negative quanta held))) =
      some (canonical (.finite negative quanta held)) := by
  rcases exists_literal_of_renderChars held with ⟨text, magnitude, literal, rendered, rounded⟩
  have noBlanks : ∀ character ∈ ([] : List Char), Text.isBlank character = true := by simp
  have denotes : Denotes Readable (.ofString (render (.finite negative quanta held)))
      (negative && quanta != 0) magnitude := by
    refine .intro noBlanks (sign_signText _) (.inl literal) noBlanks ?_
    rw [ByteString.ofString, render, String.toList_ofList, rendered]
    simp
  rcases exists_number_of_denotes denotes with ⟨number, read, readRounded⟩
  rw [read, readRounded.unique rounded]

/-- Is this neither an infinity nor the undefined number? -/
def isFinite : Number → Bool
  | .finite _ _ _ => true
  | _ => false

theorem isNaN_of_isFinite {number : Number} (finite : number.isFinite = true) :
    number.isNaN = false := by
  cases number with
  | finite => rfl
  | _ => cases finite

theorem canonical_eq_or (number : Number) :
    number.canonical = number ∨ number = zero true ∧ number.canonical = zero false := by
  cases number with
  | nan => exact .inl rfl
  | infinite negative => exact .inl rfl
  | finite negative quanta held =>
      by_cases isZero : quanta = 0
      · subst isZero
        cases negative with
        | false => exact .inl rfl
        | true => exact .inr ⟨rfl, rfl⟩
      · exact .inl (by simp only [canonical, if_neg isZero])

theorem isFinite_canonical (number : Number) : number.canonical.isFinite = number.isFinite := by
  rcases number.canonical_eq_or with unchanged | ⟨isZero, becomes⟩
  · rw [unchanged]
  · rw [becomes, isZero]
    rfl

theorem sameKey_canonical (number : Number) : number.canonical.sameKey number = true := by
  rcases number.canonical_eq_or with unchanged | ⟨isZero, becomes⟩
  · rw [unchanged]
    exact (sameKey_iff number number).mpr rfl
  · rw [becomes, isZero]
    rfl

/-- Finite numbers are the same key if they are equal. -/
theorem sameKey_eq_numericEq {left : Number} (finite : left.isFinite = true) (right : Number) :
    left.sameKey right = left.numericEq right := by
  cases left with
  | finite => cases right <;> rfl
  | _ => cases finite

/-- Printed numbers are read back if they are finite, and only then.  The sign of a zero is lost. -/
theorem parse?_render (number : Number) :
    parse? (.ofString number.render) = if number.isFinite then some number.canonical else none := by
  cases number with
  | nan => rfl
  | infinite negative => cases negative <;> rfl
  | finite negative quanta held => exact parse?_render_finite held

/-- Both zeros are written without a sign. -/
theorem renderChars_zero (negative : Bool) : renderChars (zero negative) = digitsOf 0 := by
  have bounded : 0 < integerBound := Nat.pow_pos (by decide)
  simp [renderChars, zero, signText, bounded]

theorem render_canonical (number : Number) : number.canonical.render = number.render := by
  cases number with
  | nan => rfl
  | infinite negative => rfl
  | finite negative quanta held =>
      by_cases isZero : quanta = 0
      · subst isZero
        have sameChars := (renderChars_zero false).trans (renderChars_zero negative).symm
        exact congrArg String.ofList sameChars
      · simp only [canonical, if_neg isZero]

theorem eq_of_render_eq_of_not_isFinite {left right : Number} (leftEndless : left.isFinite = false)
    (rightEndless : right.isFinite = false) (sameText : left.render = right.render) :
    left = right := by
  cases left with
  | finite => cases leftEndless
  | nan =>
      cases right with
      | finite => cases rightEndless
      | nan => rfl
      | infinite negative => cases negative <;> exact absurd sameText (by decide)
  | infinite negative =>
      cases right with
      | finite => cases rightEndless
      | nan => cases negative <;> exact absurd sameText (by decide)
      | infinite other =>
          cases negative <;> cases other <;> first | rfl | exact absurd sameText (by decide)

/-- Numbers have the same text exactly if they are the same key. -/
theorem render_eq_iff (left right : Number) :
    left.render = right.render ↔ left.sameKey right = true := by
  rw [sameKey_iff]
  constructor
  · intro sameText
    have sameRead := parse?_render left
    rw [sameText, parse?_render right] at sameRead
    cases leftFinite : left.isFinite with
    | true =>
        cases rightFinite : right.isFinite with
        | true => exact (by simpa [leftFinite, rightFinite] using sameRead.symm)
        | false => simp [leftFinite, rightFinite] at sameRead
    | false =>
        cases rightFinite : right.isFinite with
        | true => simp [leftFinite, rightFinite] at sameRead
        | false => rw [eq_of_render_eq_of_not_isFinite leftFinite rightFinite sameText]
  · intro sameCanonical
    rw [← render_canonical left, sameCanonical, render_canonical right]

end Number

end ScriptBridge
