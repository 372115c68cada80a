import Mathlib.Data.List.Forall2
import Mathlib.Data.Nat.Digits.Defs
import Mathlib.Tactic.FieldSimp
import Mathlib.Tactic.Positivity
import ScriptBridge.Proofs.Number.Decimal
import ScriptBridge.Text.Blank
import ScriptBridge.Text.ByteString

/-!
# Numerals

The strings that stand for numbers, said by a grammar and without a reader.  A literal is a
hexadecimal integer or a decimal literal, and a string denotes a signed magnitude if its bytes
spell blanks, a sign, a literal of that magnitude, and blanks.  Magnitudes are rational, so
nothing is rounded here.
-/

namespace ScriptBridge

namespace Numeral

/-! ## The grammar -/

/-- The sixteen digits, with small letters above nine. -/
def lowerDigits : List Char :=
  ['0', '1', '2', '3', '4', '5', '6', '7', '8', '9', 'a', 'b', 'c', 'd', 'e', 'f']

/-- The sixteen digits, with capital letters above nine. -/
def upperDigits : List Char :=
  ['0', '1', '2', '3', '4', '5', '6', '7', '8', '9', 'A', 'B', 'C', 'D', 'E', 'F']

def IsDigit (base : ℕ) (character : Char) (digit : ℕ) : Prop :=
  digit < base ∧ (lowerDigits[digit]? = some character ∨ upperDigits[digit]? = some character)

/-- The text consists of these digits of the base. -/
def Spells (base : ℕ) : List Char → List ℕ → Prop :=
  List.Forall₂ (IsDigit base)

/-- What digits of a base stand for, the most significant one first. -/
def valueOf (base : ℕ) (digits : List ℕ) : ℕ :=
  Nat.ofDigits base digits.reverse

/-- A sign, which may be left out. -/
inductive Sign : Bool → List Char → Prop where
  | absent : Sign false []
  | plus : Sign false ['+']
  | minus : Sign true ['-']

/-- The part of a decimal literal after its digits. -/
inductive Exponent : List Char → ℤ → Prop where
  | absent : Exponent [] 0
  | marked {mark : Char} {negative : Bool} {sign text : List Char} {digits : List ℕ}
      (isMark : mark = 'e' ∨ mark = 'E') (signed : Sign negative sign)
      (spelled : Spells 10 text digits) (nonempty : digits ≠ []) :
      Exponent (mark :: (sign ++ text))
        (if negative then -(valueOf 10 digits : ℤ) else valueOf 10 digits)

/-- The part of a decimal literal from its point up to its exponent. -/
inductive Fraction : List Char → List ℕ → Prop where
  | absent : Fraction [] []
  | pointed {text : List Char} {digits : List ℕ} (spelled : Spells 10 text digits) :
      Fraction ('.' :: text) digits

/-- A hexadecimal integer below `2 ^ 64`, with a text between its mark and its digits. -/
inductive Hexadecimal (between : List Char) : List Char → ℚ → Prop where
  | marked {mark : Char} {text : List Char} {digits : List ℕ} (isMark : mark = 'x' ∨ mark = 'X')
      (spelled : Spells 16 text digits) (nonempty : digits ≠ [])
      (bounded : valueOf 16 digits < 2 ^ 64) :
      Hexadecimal between ('0' :: mark :: (between ++ text)) (valueOf 16 digits)

/-- An unsigned literal and its magnitude. -/
inductive Literal : List Char → ℚ → Prop where
  | hexadecimal {text : List Char} {magnitude : ℚ} (spelled : Hexadecimal [] text magnitude) :
      Literal text magnitude
  | decimal {wholeText fractionText exponentText : List Char} {whole fraction : List ℕ}
      {exponent : ℤ} (spelled : Spells 10 wholeText whole)
      (pointed : Fraction fractionText fraction) (nonempty : whole ≠ [] ∨ fraction ≠ [])
      (marked : Exponent exponentText exponent) :
      Literal (wholeText ++ fractionText ++ exponentText)
        ((valueOf 10 whole + valueOf 10 fraction / 10 ^ fraction.length) * 10 ^ exponent)

/-- The unsigned texts that are read as numbers.  Besides the literals these are the hexadecimal
integers with a plus sign after their mark. -/
def Readable (text : List Char) (magnitude : ℚ) : Prop :=
  Literal text magnitude ∨ Hexadecimal ['+'] text magnitude

/-- The bytes spell an unsigned text of the given kind with a sign in front of it and blanks
around both. -/
inductive Denotes (Unsigned : List Char → ℚ → Prop) (string : ByteString) (negative : Bool)
    (magnitude : ℚ) : Prop where
  | intro {before sign text after : List Char}
      (blankBefore : ∀ character ∈ before, Text.isBlank character = true)
      (signed : Sign negative sign) (unsigned : Unsigned text magnitude)
      (blankAfter : ∀ character ∈ after, Text.isBlank character = true)
      (spelled : string.bytes = Text.Utf8.encode (before ++ (sign ++ text) ++ after))

/-! ## Values -/

theorem valueOf_append (base : ℕ) (high low : List ℕ) :
    valueOf base (high ++ low) = valueOf base high * base ^ low.length + valueOf base low := by
  rw [valueOf, List.reverse_append, Nat.ofDigits_append, List.length_reverse, Nat.add_comm,
    Nat.mul_comm]
  rfl

/-- The digits of both parts stand for the magnitude once the exponent makes up for the point. -/
theorem value_of_parts (whole fraction : List ℕ) (exponent : ℤ) :
    Decimal.value ⟨valueOf 10 (whole ++ fraction), exponent - fraction.length⟩ =
      (valueOf 10 whole + valueOf 10 fraction / 10 ^ fraction.length) * 10 ^ exponent := by
  have nonzero : (10 : ℚ) ^ fraction.length ≠ 0 := by positivity
  simp only [Decimal.value, valueOf_append]
  rw [zpow_sub₀ (by norm_num), zpow_natCast]
  push_cast
  field_simp

/-! ## Characters

Nothing in a numeral is blank, and its unsigned part does not start with a sign.  So the parts
of a string are found without knowing them beforehand. -/

section

variable {base digit : ℕ} {character : Char} {text : List Char} {digits : List ℕ}

theorem IsDigit.of_all (property : Char → Bool) (isDigit : IsDigit base character digit)
    (lower : lowerDigits.all property = true) (upper : upperDigits.all property = true) :
    property character = true := by
  rcases isDigit.2 with isLower | isUpper
  · exact List.all_eq_true.mp lower character (List.mem_of_getElem? isLower)
  · exact List.all_eq_true.mp upper character (List.mem_of_getElem? isUpper)

theorem IsDigit.not_blank (isDigit : IsDigit base character digit) :
    Text.isBlank character = false := by
  have clear := isDigit.of_all (fun character => !Text.isBlank character) (by decide) (by decide)
  simpa using clear

theorem IsDigit.isAlphanum (isDigit : IsDigit base character digit) :
    character.isAlphanum = true :=
  isDigit.of_all Char.isAlphanum (by decide) (by decide)

theorem ne_sign_of_isAlphanum (alphanum : character.isAlphanum = true) :
    character ≠ '-' ∧ character ≠ '+' := by
  constructor
  · rintro rfl
    exact absurd alphanum (by decide)
  · rintro rfl
    exact absurd alphanum (by decide)

theorem Spells.clear (spelled : Spells base text digits) :
    ∀ character ∈ text, Text.isBlank character = false := by
  induction spelled with
  | nil => simp
  | cons isDigit _ ih => simpa using ⟨isDigit.not_blank, ih⟩

theorem Spells.head_isAlphanum (spelled : Spells base text digits) :
    ∀ character ∈ text.head?, character.isAlphanum = true := by
  cases spelled with
  | nil => simp
  | cons isDigit _ => simpa using isDigit.isAlphanum

end

section

variable {negative : Bool} {text sign between : List Char} {fraction : List ℕ} {exponent : ℤ}
  {magnitude : ℚ}

theorem Sign.clear (signed : Sign negative sign) :
    ∀ character ∈ sign, Text.isBlank character = false := by
  cases signed with
  | absent => simp
  | plus | minus =>
      intro character member
      rw [List.mem_singleton.mp member]
      decide

theorem Exponent.clear (marked : Exponent text exponent) :
    ∀ character ∈ text, Text.isBlank character = false := by
  cases marked with
  | absent => simp
  | marked isMark signed spelled nonempty =>
      refine List.forall_mem_cons.mpr
        ⟨?_, List.forall_mem_append.mpr ⟨signed.clear, spelled.clear⟩⟩
      rcases isMark with rfl | rfl <;> decide

theorem Fraction.clear (pointed : Fraction text fraction) :
    ∀ character ∈ text, Text.isBlank character = false := by
  cases pointed with
  | absent => simp
  | pointed spelled => exact List.forall_mem_cons.mpr ⟨by decide, spelled.clear⟩

theorem Hexadecimal.clear (clear : ∀ character ∈ between, Text.isBlank character = false)
    (spelled : Hexadecimal between text magnitude) :
    ∀ character ∈ text, Text.isBlank character = false := by
  cases spelled with
  | marked isMark spelled nonempty bounded =>
      refine List.forall_mem_cons.mpr ⟨by decide, List.forall_mem_cons.mpr ⟨?_, ?_⟩⟩
      · rcases isMark with rfl | rfl <;> decide
      · exact List.forall_mem_append.mpr ⟨clear, spelled.clear⟩

theorem Hexadecimal.unsigned (spelled : Hexadecimal between text magnitude) :
    ∀ character ∈ text.head?, character ≠ '-' ∧ character ≠ '+' := by
  cases spelled with
  | marked isMark spelled nonempty bounded =>
      rintro character ⟨⟩
      decide

theorem Literal.clear (literal : Literal text magnitude) :
    ∀ character ∈ text, Text.isBlank character = false := by
  cases literal with
  | hexadecimal spelled => exact spelled.clear (by simp)
  | decimal spelled pointed nonempty marked =>
      have digitsClear := List.forall_mem_append.mpr ⟨spelled.clear, pointed.clear⟩
      exact List.forall_mem_append.mpr ⟨digitsClear, marked.clear⟩

/-- A decimal literal starts with a digit or with its point. -/
theorem Literal.unsigned (literal : Literal text magnitude) :
    ∀ character ∈ text.head?, character ≠ '-' ∧ character ≠ '+' := by
  rcases literal with spelled | ⟨spelled, pointed, nonempty, marked⟩
  · exact spelled.unsigned
  intro character isHead
  cases spelled with
  | cons isDigit spelled =>
      cases isHead
      exact ne_sign_of_isAlphanum isDigit.isAlphanum
  | nil =>
      cases pointed with
      | absent => simp at nonempty
      | pointed spelled =>
          cases isHead
          decide

theorem Readable.clear (readable : Readable text magnitude) :
    ∀ character ∈ text, Text.isBlank character = false := by
  rcases readable with literal | plused
  · exact literal.clear
  · exact plused.clear Sign.plus.clear

end

end Numeral

end ScriptBridge
