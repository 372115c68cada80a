import Mathlib.Data.List.Induction
import ScriptBridge.Number.Text
import ScriptBridge.Proofs.Number.Numeral
import ScriptBridge.Proofs.Text.Utf8

/-!
# Reading numerals

What the reader accepts, against the grammar of numerals.  Each function that reads a part is
proved sound (what it reads has the grammar's form, and the rest is left) and complete (what
has the form is read, up to a character that cannot belong to it).  Together they say which
strings are read as numbers, and that the number is the magnitude correctly rounded.

Between a hexadecimal mark and its digits one plus sign is let in, which the grammar does not
have.
-/

namespace ScriptBridge

open Numeral

/-! ## Digits -/

section

variable {base digit : ℕ} {character : Char} {text rest : List Char} {digits : List ℕ}

/-- A smaller base has the same digits as base sixteen, up to its own number. -/
theorem digitValue?_eq_iff_sixteen (small : base ≤ 16) :
    digitValue? base character = some digit ↔
      digitValue? 16 character = some digit ∧ digit < base := by
  simp only [digitValue?, Option.filter_eq_some_iff, decide_eq_true_eq]
  constructor
  · rintro ⟨read, below⟩
    exact ⟨⟨read, by omega⟩, below⟩
  · rintro ⟨⟨read, -⟩, below⟩
    exact ⟨read, below⟩

theorem toNat_lt_of_digitValue? (read : digitValue? 16 character = some digit) :
    character.toNat < 103 := by
  simp only [digitValue?, Option.filter_eq_some_iff] at read
  have bounded {bound : Char} (within : character ≤ bound) : character.toNat ≤ bound.toNat := within
  rcases read with ⟨read, -⟩
  split at read
  · rename_i within
    exact Nat.lt_of_le_of_lt (bounded within.2) (by decide)
  split at read
  · rename_i within
    exact Nat.lt_of_le_of_lt (bounded within.2) (by decide)
  split at read
  · rename_i within
    exact Nat.lt_of_le_of_lt (bounded within.2) (by decide)
  · cases read

theorem digits_of_digitValue? : ∀ point < 103, ∀ digit ∈ digitValue? 16 (Char.ofNat point),
    lowerDigits[digit]? = some (Char.ofNat point) ∨
      upperDigits[digit]? = some (Char.ofNat point) := by
  decide

theorem digitValue?_of_digits : ∀ digit < 16,
    lowerDigits[digit]?.bind (digitValue? 16) = some digit ∧
      upperDigits[digit]?.bind (digitValue? 16) = some digit := by
  decide

theorem digitValue?_eq_some_iff (small : base ≤ 16) :
    digitValue? base character = some digit ↔ IsDigit base character digit := by
  rw [digitValue?_eq_iff_sixteen small]
  constructor
  · rintro ⟨read, below⟩
    refine ⟨below, ?_⟩
    -- Only finitely many characters are left, and each of them is looked up.
    have bounded := toNat_lt_of_digitValue? read
    rw [← Char.ofNat_toNat character] at read ⊢
    exact digits_of_digitValue? _ bounded digit read
  · rintro ⟨below, spelled⟩
    rcases digitValue?_of_digits digit (by omega) with ⟨lower, upper⟩
    rcases spelled with isLower | isUpper
    · rw [isLower] at lower
      exact ⟨lower, below⟩
    · rw [isUpper] at upper
      exact ⟨upper, below⟩

theorem spanDigits_sound (small : base ≤ 16) (text : List Char) :
    ∃ front, text = front ++ (spanDigits base text).2 ∧
      Spells base front (spanDigits base text).1 := by
  induction text with
  | nil => exact ⟨[], rfl, .nil⟩
  | cons character text ih =>
      rw [spanDigits]
      split
      · rename_i digit isDigit
        rcases ih with ⟨front, same, spelled⟩
        exact ⟨character :: front, congrArg (character :: ·) same,
          .cons ((digitValue?_eq_some_iff small).mp isDigit) spelled⟩
      · exact ⟨[], rfl, .nil⟩

/-- Digits are read up to the first character that is none. -/
theorem spanDigits_append (small : base ≤ 16) (spelled : Spells base text digits)
    (boundary : ∀ character ∈ rest.head?, digitValue? base character = none) :
    spanDigits base (text ++ rest) = (digits, rest) := by
  induction spelled with
  | nil =>
      cases rest with
      | nil => rfl
      | cons character rest => simp only [List.nil_append, spanDigits, boundary character rfl]
  | cons isDigit _ ih =>
      simp only [List.cons_append, spanDigits, (digitValue?_eq_some_iff small).mpr isDigit, ih]

theorem ofDigits_eq_valueOf (base : ℕ) (digits : List ℕ) :
    ofDigits base digits = valueOf base digits := by
  induction digits using List.reverseRecOn with
  | nil => rfl
  | append_singleton digits digit ih =>
      rw [valueOf, ofDigits] at ih
      rw [valueOf, List.reverse_append, List.reverse_singleton, List.singleton_append,
        Nat.ofDigits_cons, ofDigits, List.foldl_append, ih, Nat.add_comm, Nat.mul_comm]
      rfl

theorem readNatural?_eq_some_iff (small : base ≤ 16) {value : ℕ} :
    readNatural? base text = some value ↔
      ∃ digits, Spells base text digits ∧ digits ≠ [] ∧ value = valueOf base digits := by
  constructor
  · intro read
    rcases spanDigits_sound small text with ⟨front, same, spelled⟩
    rw [readNatural?] at read
    split at read
    · rename_i digit digits spanned
      cases read
      rw [spanned, List.append_nil] at same
      rw [spanned, ← same] at spelled
      exact ⟨digit :: digits, spelled, List.cons_ne_nil _ _, ofDigits_eq_valueOf _ _⟩
    · cases read
  · rintro ⟨digits, spelled, nonempty, rfl⟩
    have spanned : spanDigits base (text ++ []) = (digits, []) :=
      spanDigits_append small spelled (by simp)
    rw [List.append_nil] at spanned
    rw [readNatural?, spanned]
    cases digits with
    | nil => exact absurd rfl nonempty
    | cons digit digits => exact congrArg some (ofDigits_eq_valueOf _ _)

end

/-! ## Signs -/

section

variable {negative : Bool} {sign text : List Char}

theorem Number.splitSign_sound (text : List Char) :
    ∃ sign, Sign (splitSign text).1 sign ∧ text = sign ++ (splitSign text).2 := by
  unfold splitSign
  split
  · exact ⟨_, .minus, rfl⟩
  · exact ⟨_, .plus, rfl⟩
  · exact ⟨_, .absent, rfl⟩

theorem Number.splitSign_append (signed : Sign negative sign)
    (unsigned : ∀ character ∈ text.head?, character ≠ '-' ∧ character ≠ '+') :
    splitSign (sign ++ text) = (negative, text) := by
  cases signed with
  | plus | minus => rfl
  | absent =>
      rw [List.nil_append, splitSign]
      · rintro rest rfl
        exact (unsigned '-' rfl).1 rfl
      · rintro rest rfl
        exact (unsigned '+' rfl).2 rfl

end

/-! ## Decimal literals -/

namespace Decimal

variable {text fractionText exponentText : List Char} {whole fraction : List ℕ} {exponent : ℤ}

/-- The sign of an exponent is split off like the sign of a number. -/
theorem readExponent?_cons (mark : Char) (rest : List Char) :
    readExponent? (mark :: rest) =
      if mark = 'e' ∨ mark = 'E' then
        (readNatural? 10 (Number.splitSign rest).2).map fun (value : ℕ) =>
          if (Number.splitSign rest).1 then -(value : ℤ) else value
      else none := by
  rfl

theorem readExponent?_eq_some_iff :
    readExponent? text = some exponent ↔ Exponent text exponent := by
  constructor
  · intro read
    cases text with
    | nil =>
        cases read
        exact .absent
    | cons mark rest =>
        rw [readExponent?_cons] at read
        split at read
        · rename_i isMark
          rcases Option.map_eq_some_iff.mp read with ⟨value, natural, rfl⟩
          rcases (readNatural?_eq_some_iff (by decide)).mp natural with
            ⟨digits, spelled, nonempty, rfl⟩
          rcases Number.splitSign_sound rest with ⟨sign, signed, split⟩
          have marked := Exponent.marked isMark signed spelled nonempty
          rwa [← split] at marked
        · cases read
  · intro marked
    cases marked with
    | absent => rfl
    | marked isMark signed spelled nonempty =>
        have unsigned := fun character isHead =>
          ne_sign_of_isAlphanum (spelled.head_isAlphanum character isHead)
        rw [readExponent?_cons, if_pos isMark, Number.splitSign_append signed unsigned,
          (readNatural?_eq_some_iff (by decide)).mpr ⟨_, spelled, nonempty, rfl⟩]
        rfl

/-- An exponent continues neither the digits nor the whole part before it. -/
theorem boundary_of_exponent (marked : Exponent text exponent) :
    ∀ character ∈ text.head?, digitValue? 10 character = none ∧ character ≠ '.' := by
  cases marked with
  | absent => simp
  | marked isMark signed spelled nonempty =>
      rcases isMark with rfl | rfl <;>
        (rintro character ⟨⟩
         decide)

/-- The digits after a point, if the text starts with one, and the text after them. -/
def splitFraction : List Char → List ℕ × List Char
  | '.' :: rest => spanDigits 10 rest
  | text => ([], text)

theorem splitFraction_sound (text : List Char) :
    ∃ fractionText, Fraction fractionText (splitFraction text).1 ∧
      text = fractionText ++ (splitFraction text).2 := by
  unfold splitFraction
  split
  · rename_i rest
    rcases spanDigits_sound (by decide : 10 ≤ 16) rest with ⟨front, same, spelled⟩
    exact ⟨'.' :: front, .pointed spelled, congrArg ('.' :: ·) same⟩
  · exact ⟨[], .absent, rfl⟩

theorem splitFraction_append (pointed : Fraction fractionText fraction)
    (marked : Exponent exponentText exponent) :
    splitFraction (fractionText ++ exponentText) = (fraction, exponentText) := by
  cases pointed with
  | absent =>
      rw [List.nil_append, splitFraction]
      rintro rest rfl
      exact (boundary_of_exponent marked '.' rfl).2 rfl
  | pointed spelled =>
      exact spanDigits_append (by decide) spelled fun character isHead =>
        (boundary_of_exponent marked character isHead).1

/-- The three parts of a decimal literal are read one after the other. -/
theorem read?_eq (text : List Char) :
    read? text =
      if (spanDigits 10 text).1.isEmpty && (splitFraction (spanDigits 10 text).2).1.isEmpty then
        none
      else
        (readExponent? (splitFraction (spanDigits 10 text).2).2).map fun exponent =>
          ⟨ofDigits 10 ((spanDigits 10 text).1 ++ (splitFraction (spanDigits 10 text).2).1),
            exponent - (splitFraction (spanDigits 10 text).2).1.length⟩ := by
  rfl

theorem read?_sound {decimal : Decimal} (read : read? text = some decimal) :
    Literal text decimal.value := by
  rw [read?_eq] at read
  split at read
  · cases read
  rename_i nonempty
  rcases Option.map_eq_some_iff.mp read with ⟨exponent, readExponent, rfl⟩
  rcases spanDigits_sound (by decide : 10 ≤ 16) text with ⟨wholeText, wholeSplit, spelled⟩
  rcases splitFraction_sound (spanDigits 10 text).2 with ⟨fractionText, pointed, fractionSplit⟩
  rw [Bool.and_eq_true, List.isEmpty_iff, List.isEmpty_iff, Decidable.not_and_iff_or_not]
    at nonempty
  have literal := Literal.decimal spelled pointed nonempty
    (readExponent?_eq_some_iff.mp readExponent)
  rw [ofDigits_eq_valueOf, value_of_parts]
  rwa [List.append_assoc, ← fractionSplit, ← wholeSplit] at literal

theorem read?_append {wholeText : List Char} (spelled : Spells 10 wholeText whole)
    (pointed : Fraction fractionText fraction) (nonempty : whole ≠ [] ∨ fraction ≠ [])
    (marked : Exponent exponentText exponent) :
    read? (wholeText ++ fractionText ++ exponentText) =
      some ⟨valueOf 10 (whole ++ fraction), exponent - fraction.length⟩ := by
  -- The whole part ends where the point or the mark of the exponent stands.
  have boundary : ∀ character ∈ (fractionText ++ exponentText).head?,
      digitValue? 10 character = none := by
    cases pointed with
    | absent => exact fun character isHead => (boundary_of_exponent marked character isHead).1
    | pointed spelled =>
        rintro character ⟨⟩
        decide
  have wholeSplit := spanDigits_append (by decide) spelled boundary
  rw [List.append_assoc, read?_eq, wholeSplit, splitFraction_append pointed marked, if_neg,
    readExponent?_eq_some_iff.mpr marked, ofDigits_eq_valueOf]
  · rfl
  · rwa [Bool.and_eq_true, List.isEmpty_iff, List.isEmpty_iff, Decidable.not_and_iff_or_not]

end Decimal

namespace Number

/-! ## Hexadecimal integers -/

section

variable {text between hex : List Char} {value : ℕ} {magnitude : ℚ}

theorem afterHexMark?_eq_some_iff :
    afterHexMark? text = some hex ↔
      ∃ mark, (mark = 'x' ∨ mark = 'X') ∧ text = '0' :: mark :: hex := by
  constructor
  · intro read
    unfold afterHexMark? at read
    split at read
    · cases read
      exact ⟨'x', .inl rfl, rfl⟩
    · cases read
      exact ⟨'X', .inr rfl, rfl⟩
    · cases read
  · rintro ⟨mark, rfl | rfl, rfl⟩ <;> rfl

/-- A decimal literal has no hexadecimal mark. -/
theorem afterHexMark?_eq_none_of_read? {decimal : Decimal}
    (read : Decimal.read? text = some decimal) : afterHexMark? text = none := by
  cases marked : afterHexMark? text with
  | none => rfl
  | some hex =>
      -- The mark ends the digits, and it starts neither a fraction nor an exponent.
      rcases afterHexMark?_eq_some_iff.mp marked with ⟨mark, rfl | rfl, rfl⟩ <;> cases read

/-- The digits may follow the mark, or a plus sign after it. -/
theorem readHex?_eq_some_iff :
    readHex? text = some value ↔
      ∃ between digitsText digits, (between = [] ∨ between = ['+']) ∧
        text = between ++ digitsText ∧ Spells 16 digitsText digits ∧ digits ≠ [] ∧
        value = valueOf 16 digits ∧ value < 2 ^ 64 := by
  constructor
  · intro read
    unfold readHex? at read
    rcases Option.filter_eq_some_iff.mp read with ⟨natural, bounded⟩
    rcases (readNatural?_eq_some_iff (by decide)).mp natural with ⟨digits, spelled, nonempty, same⟩
    have below : value < 2 ^ 64 := of_decide_eq_true bounded
    split at spelled
    · exact ⟨['+'], _, digits, .inr rfl, rfl, spelled, nonempty, same, below⟩
    · exact ⟨[], _, digits, .inl rfl, rfl, spelled, nonempty, same, below⟩
  · rintro ⟨between, digitsText, digits, isBetween, rfl, spelled, nonempty, rfl, below⟩
    have natural := (readNatural?_eq_some_iff (by decide)).mpr ⟨digits, spelled, nonempty, rfl⟩
    have kept : (some (valueOf 16 digits)).filter (· < Nat.pow 2 64) = some (valueOf 16 digits) :=
      Option.filter_some_pos (decide_eq_true below)
    have read := (congrArg (Option.filter (· < Nat.pow 2 64)) natural).trans kept
    unfold readHex?
    rcases isBetween with rfl | rfl
    · split
      -- Digits do not start with the plus sign that is looked for.
      · rename_i rest plus
        rw [List.nil_append] at plus
        subst plus
        have alphanum := spelled.head_isAlphanum '+' rfl
        exact absurd alphanum (by decide)
      · exact read
    · exact read

theorem exists_hex_of_hexadecimal (spelled : Hexadecimal between text magnitude) :
    ∃ digitsText digits, afterHexMark? text = some (between ++ digitsText) ∧
      Spells 16 digitsText digits ∧ digits ≠ [] ∧ magnitude = valueOf 16 digits ∧
      valueOf 16 digits < 2 ^ 64 := by
  cases spelled with
  | marked isMark spelled nonempty bounded =>
      exact ⟨_, _, afterHexMark?_eq_some_iff.mpr ⟨_, isMark, rfl⟩, spelled, nonempty, rfl,
        bounded⟩

/-- A plus sign after the mark makes a text no literal. -/
theorem not_literal_of_hexadecimal {other : ℚ} (plused : Hexadecimal ['+'] text magnitude) :
    ¬Literal text other := by
  intro literal
  rcases exists_hex_of_hexadecimal plused with ⟨digitsText, -, hex, -⟩
  cases literal with
  | hexadecimal spelled =>
      rcases exists_hex_of_hexadecimal spelled with ⟨otherText, digits, otherHex, spelled, -⟩
      rw [hex] at otherHex
      injection otherHex with same
      rw [List.nil_append] at same
      have alphanum := spelled.head_isAlphanum '+' (by rw [← same]; rfl)
      exact absurd alphanum (by decide)
  | decimal spelled pointed nonempty marked =>
      have unmarked := afterHexMark?_eq_none_of_read?
        (Decimal.read?_append spelled pointed nonempty marked)
      rw [unmarked] at hex
      cases hex

end

/-! ## Texts without blanks around them -/

section

variable {negative : Bool} {sign text : List Char} {magnitude : ℚ} {number : Number}

theorem readTrimmed?_eq (text : List Char) :
    readTrimmed? text =
      match afterHexMark? (splitSign text).2 with
      | some hex => (readHex? hex).map fun value => ofRatio (splitSign text).1 value 1
      | none => (Decimal.read? (splitSign text).2).map (·.toNumber (splitSign text).1) := by
  rfl

theorem readTrimmed?_sound (read : readTrimmed? text = some number) :
    ∃ negative sign unsigned magnitude, Sign negative sign ∧ text = sign ++ unsigned ∧
      Readable unsigned magnitude ∧ Rounds negative magnitude number := by
  rcases splitSign_sound text with ⟨sign, signed, split⟩
  rw [readTrimmed?_eq] at read
  cases marked : afterHexMark? (splitSign text).2 with
  | some hex =>
      simp only [marked] at read
      rcases Option.map_eq_some_iff.mp read with ⟨value, readHex, rfl⟩
      rcases afterHexMark?_eq_some_iff.mp marked with ⟨mark, isMark, markSplit⟩
      rcases readHex?_eq_some_iff.mp readHex with
        ⟨between, digitsText, digits, isBetween, rfl, spelled, nonempty, rfl, bounded⟩
      have hexadecimal : Hexadecimal between _ _ := .marked isMark spelled nonempty bounded
      refine ⟨_, sign, _, _, signed, split, ?_, rounds_ofRatio_one _ _⟩
      rw [markSplit]
      rcases isBetween with rfl | rfl
      · exact .inl (.hexadecimal hexadecimal)
      · exact .inr hexadecimal
  | none =>
      simp only [marked] at read
      rcases Option.map_eq_some_iff.mp read with ⟨decimal, readDecimal, rfl⟩
      exact ⟨_, sign, _, _, signed, split, .inl (Decimal.read?_sound readDecimal),
        decimal.rounds_toNumber _⟩

theorem exists_number_of_hexadecimal {between : List Char}
    (isBetween : between = [] ∨ between = ['+']) (signed : Sign negative sign)
    (spelled : Hexadecimal between text magnitude) :
    ∃ number, readTrimmed? (sign ++ text) = some number ∧ Rounds negative magnitude number := by
  have unsigned := spelled.unsigned
  rcases exists_hex_of_hexadecimal spelled with
    ⟨digitsText, digits, hex, digitsSpelled, nonempty, rfl, bounded⟩
  have read : readHex? (between ++ digitsText) = some (valueOf 16 digits) :=
    readHex?_eq_some_iff.mpr
      ⟨between, digitsText, digits, isBetween, rfl, digitsSpelled, nonempty, rfl, bounded⟩
  refine ⟨_, ?_, rounds_ofRatio_one negative (valueOf 16 digits)⟩
  simp only [readTrimmed?_eq, splitSign_append signed unsigned, hex, read, Option.map_some]

theorem exists_number_of_readable (signed : Sign negative sign)
    (readable : Readable text magnitude) :
    ∃ number, readTrimmed? (sign ++ text) = some number ∧ Rounds negative magnitude number := by
  rcases readable with literal | plused
  · have unsigned := literal.unsigned
    cases literal with
    | hexadecimal spelled => exact exists_number_of_hexadecimal (.inl rfl) signed spelled
    | decimal spelled pointed nonempty marked =>
        have read := Decimal.read?_append spelled pointed nonempty marked
        rw [← value_of_parts]
        refine ⟨_, ?_, Decimal.rounds_toNumber negative _⟩
        simp only [readTrimmed?_eq, splitSign_append signed unsigned,
          afterHexMark?_eq_none_of_read? read, read, Option.map_some]
  · exact exists_number_of_hexadecimal (.inr rfl) signed plused

end

/-! ## Strings -/

section

variable {string : ByteString} {negative : Bool} {magnitude : ℚ} {number : Number}

/-- What a string denotes is what stands between its blanks. -/
theorem exists_trim_of_denotes {Unsigned : List Char → ℚ → Prop}
    (clear : ∀ text, Unsigned text magnitude → ∀ character ∈ text, Text.isBlank character = false)
    (denotes : Denotes Unsigned string negative magnitude) :
    ∃ sign text, Sign negative sign ∧ Unsigned text magnitude ∧
      (Text.Utf8.decode? string.bytes).map Text.trim = some (sign ++ text) := by
  rcases denotes with ⟨blankBefore, signed, unsigned, blankAfter, spelled⟩
  refine ⟨_, _, signed, unsigned, ?_⟩
  have bodyClear := List.forall_mem_append.mpr ⟨signed.clear, clear _ unsigned⟩
  rw [Text.Utf8.decode?_eq_some_iff.mpr spelled, Option.map_some,
    Text.trim_append blankBefore blankAfter bodyClear]

theorem exists_number_of_denotes (denotes : Denotes Readable string negative magnitude) :
    ∃ number, parse? string = some number ∧ Rounds negative magnitude number := by
  rcases exists_trim_of_denotes (fun _ => Readable.clear) denotes with
    ⟨sign, text, signed, readable, trimmed⟩
  rcases Option.map_eq_some_iff.mp trimmed with ⟨whole, decoded, trimmed⟩
  rcases exists_number_of_readable signed readable with ⟨number, read, rounded⟩
  refine ⟨number, ?_, rounded⟩
  rw [parse?, decoded, Option.bind_some, readText?, trimmed, read]

theorem exists_denotes_of_parse? (read : parse? string = some number) :
    ∃ negative magnitude, Denotes Readable string negative magnitude ∧
      Rounds negative magnitude number := by
  rcases Option.bind_eq_some_iff.mp read with ⟨whole, decoded, read⟩
  rcases Text.exists_blanks_around whole with ⟨before, after, around, blankBefore, blankAfter⟩
  rcases readTrimmed?_sound read with
    ⟨negative, sign, text, magnitude, signed, trimmed, readable, rounded⟩
  have spelled := Text.Utf8.decode?_eq_some_iff.mp decoded
  rw [around, trimmed] at spelled
  exact ⟨negative, magnitude, ⟨blankBefore, signed, readable, blankAfter, spelled⟩, rounded⟩

/-- No string denotes both a literal and a hexadecimal integer with a plus sign after its mark. -/
theorem not_denotes_literal {otherNegative : Bool} {other : ℚ}
    (plused : Denotes (Hexadecimal ['+']) string negative magnitude) :
    ¬Denotes Literal string otherNegative other := by
  intro literal
  rcases exists_trim_of_denotes (fun _ spelled => spelled.clear Sign.plus.clear) plused with
    ⟨sign, text, signed, hexadecimal, trimmed⟩
  rcases exists_trim_of_denotes (fun _ => Literal.clear) literal with
    ⟨otherSign, otherText, otherSigned, literal, otherTrimmed⟩
  rw [trimmed] at otherTrimmed
  injection otherTrimmed with same
  -- Neither unsigned text starts with a sign, so the signs end at the same place.
  have split := splitSign_append signed hexadecimal.unsigned
  rw [same, splitSign_append otherSigned literal.unsigned] at split
  injection split with sameSign sameText
  subst sameText
  exact not_literal_of_hexadecimal hexadecimal literal

/-- A string is read exactly if it denotes something readable, and then as the number that this
magnitude is rounded to.  What is readable without being a literal is no literal in another
way either. -/
theorem parse?_eq_some_iff_denotes (string : ByteString) :
    (∀ number, parse? string = some number ↔
        ∃ negative magnitude, Denotes Readable string negative magnitude ∧
          Rounds negative magnitude number) ∧
      ((parse? string).isSome ↔
        ∃ negative magnitude, Denotes Readable string negative magnitude) ∧
      parse? string ≠ some .nan ∧
      ∀ negative magnitude, Denotes (Hexadecimal ['+']) string negative magnitude →
        ¬∃ negative magnitude, Denotes Literal string negative magnitude := by
  refine ⟨fun number => ⟨exists_denotes_of_parse?, ?_⟩, ⟨?_, ?_⟩, ?_, ?_⟩
  · rintro ⟨negative, magnitude, denotes, rounded⟩
    rcases exists_number_of_denotes denotes with ⟨found, read, foundRounded⟩
    rw [read, foundRounded.unique rounded]
  · intro isSome
    rcases Option.isSome_iff_exists.mp isSome with ⟨number, read⟩
    rcases exists_denotes_of_parse? read with ⟨negative, magnitude, denotes, -⟩
    exact ⟨negative, magnitude, denotes⟩
  · rintro ⟨negative, magnitude, denotes⟩
    rcases exists_number_of_denotes denotes with ⟨number, read, -⟩
    exact Option.isSome_iff_exists.mpr ⟨number, read⟩
  · intro read
    rcases exists_denotes_of_parse? read with ⟨negative, magnitude, -, rounded⟩
    exact rounded.ne_nan rfl
  · rintro negative magnitude plused ⟨otherNegative, other, literal⟩
    exact not_denotes_literal plused literal

/-- One is read from a plus sign between a hexadecimal mark and its digit. -/
theorem plus_after_mark_read :
    parse? (.ofString "0x+1") = some (.ofRatio false 1 1) ∧
      ¬∃ negative magnitude, Denotes Literal (.ofString "0x+1") negative magnitude := by
  have one : Spells 16 ['1'] [1] := .cons ⟨by decide, .inl rfl⟩ .nil
  have plused : Hexadecimal ['+'] ['0', 'x', '+', '1'] (valueOf 16 [1] : ℕ) :=
    .marked (.inl rfl) one (by decide) (by decide)
  have noBlanks : ∀ character ∈ ([] : List Char), Text.isBlank character = true := by
    simp
  have denotes : Denotes (Hexadecimal ['+']) (.ofString "0x+1") false (valueOf 16 [1] : ℕ) :=
    .intro noBlanks .absent plused noBlanks rfl
  refine ⟨rfl, ?_⟩
  rintro ⟨negative, magnitude, literal⟩
  exact not_denotes_literal denotes literal

end

end Number

end ScriptBridge
