import ScriptBridge.Proofs.Extraction.Reference
import ScriptBridge.Proofs.Number.Render

/-!
# Numbers that pass through text

A parameter of type string takes numbers, and a parameter of a number type takes texts of
numbers.  A finite number that a script hands over as a string, and hands on as a number, is the
number that it was: printing and reading are inverse up to the sign of a zero, which no
argument's equality tells apart.
-/

namespace ScriptBridge

namespace CallSite

variable {site : CallSite} {slots : Slots} {position : Nat} {value : Value}

theorem extract_string_of_holdsAt (holds : slots.HoldsAt position value) {text : ByteString}
    (spelled : value.toString? = some text) :
    site.extract .string slots position .clear = ⟨.string text, position + 1, .clear⟩ := by
  have fits : ParamType.string.matchesAt slots position = true := by
    rw [ParamType.matchesAt, holds.kind]
    cases value <;> first | rfl | cases spelled
  have reads : slots.stringAt position = some text := holds.string.trans spelled
  rw [extract_of_fits fits]
  simp only [read, reads, Option.getD_some]

theorem extract_number_of_holdsAt (holds : slots.HoldsAt position value) {number : Number}
    (read : value.toNumber? = some number) (defined : number.isNaN = false) (kind : NumberKind) :
    site.extract (.number kind) slots position .clear =
      ⟨numberArg kind number, position + 1, .clear⟩ := by
  have fits : (ParamType.number kind).matchesAt slots position = true := by
    rw [ParamType.matchesAt, holds.kind]
    cases value <;> first | rfl | cases read
  have reads : slots.numberAt position = some number := holds.number.trans read
  rw [extract_of_fits fits]
  simp only [CallSite.read, readNumber, reads, defined, Bool.false_eq_true, if_false]

/-- Equality of arguments passes over the sign of a zero. -/
theorem same_numberArg_canonical (kind : NumberKind) (number : Number) :
    (numberArg kind number.canonical).same (numberArg kind number) = true := by
  rcases number.canonical_eq_or with unchanged | ⟨isZero, becomes⟩
  · rw [unchanged]
    exact Arg.same_refl _
  · rw [becomes, isZero]
    have vanishes : BinaryFormat.single.nearest 0 1 = 0 :=
      BinaryFormat.nearest_of_holds (BinaryFormat.holds_zero _)
    cases kind <;>
      simp [numberArg, NumberKind.integerBounds?, Arg.same, Number.zero, Number.saturate,
        Number.truncateQuanta, Number.signedQuanta, Number.toSingle, Number.sameKey, vanishes,
        Number.ofQuanta, BinaryFormat.holds_zero, Number.numericEq]

end CallSite

namespace Number

/-- Printing and reading are inverse.  A finite number is read back from its text as an equal
number, the same one unless it is the negative zero, and the texts of the other numbers are not
read.  So finite numbers with the same text are equal.  And if a slot holds a finite number, then a
string parameter takes its text, and from a slot with this text a parameter of any kind of
number takes what it takes from the number itself. -/
theorem printed_read_back :
    (∀ number : Number, number.isFinite = true →
      ∃ back, parse? (.ofString number.render) = some back ∧ back.numericEq number = true ∧
        (back = number ∨ number = zero true ∧ back = zero false)) ∧
    (∀ number : Number, number.isFinite = false → parse? (.ofString number.render) = none) ∧
    (∀ left right : Number, left.isFinite = true → right.isFinite = true →
      left.render = right.render → left.numericEq right = true) ∧
    ∀ (site : CallSite) (slots : Slots) (position : Nat) (number : Number),
      number.isFinite = true → slots.HoldsAt position (.number number) →
        ∃ text, site.extract .string slots position .clear = ⟨.string text, position + 1, .clear⟩ ∧
          ∀ (kind : NumberKind) (other : Slots) (place : Nat), other.HoldsAt place (.string text) →
            ∃ arg again, again.same arg = true ∧
              site.extract (.number kind) slots position .clear = ⟨arg, position + 1, .clear⟩ ∧
              site.extract (.number kind) other place .clear = ⟨again, place + 1, .clear⟩ ∧
              (number ≠ zero true → again = arg) := by
  refine ⟨?_, ?_, ?_, ?_⟩
  · intro number finite
    have read := parse?_render number
    rw [if_pos finite] at read
    have equal := sameKey_canonical number
    rw [sameKey_eq_numericEq (number.isFinite_canonical.trans finite)] at equal
    exact ⟨_, read, equal, number.canonical_eq_or⟩
  · intro number endless
    rw [parse?_render, if_neg (by simp [endless])]
  · intro left right finite _ sameText
    rw [← sameKey_eq_numericEq finite]
    exact (render_eq_iff left right).mp sameText
  · intro site slots position number finite holds
    have defined := isNaN_of_isFinite finite
    have definedToo := isNaN_of_isFinite (number.isFinite_canonical.trans finite)
    refine ⟨_, CallSite.extract_string_of_holdsAt holds rfl, ?_⟩
    intro kind other place holdsText
    have read : (Value.string (.ofString number.render)).toNumber? = some number.canonical := by
      simp only [Value.toNumber?, parse?_render, if_pos finite]
    refine ⟨_, _, CallSite.same_numberArg_canonical kind number,
      CallSite.extract_number_of_holdsAt holds rfl defined kind,
      CallSite.extract_number_of_holdsAt holdsText read definedToo kind, ?_⟩
    intro nonzero
    rcases number.canonical_eq_or with unchanged | ⟨isZero, -⟩
    · rw [unchanged]
    · exact absurd isZero nonzero

/-- One half below zero, and the negative zero. -/
theorem printed_read_back_negative :
    let half : Number := ofRatio true 1 2
    half.render = "-0.5" ∧ parse? (.ofString "-0.5") = some half ∧
      ∃ back, parse? (.ofString (zero true).render) = some back ∧
        back.numericEq (zero true) = true := by
  intro half
  have rendered : half.render = "-0.5" := by decide +kernel
  have nonzero : half ≠ zero true := by decide +kernel
  rcases printed_read_back.1 half (by decide +kernel) with ⟨back, read, _, unchanged⟩
  rcases printed_read_back.1 (zero true) rfl with ⟨zeroBack, zeroRead, equal, _⟩
  have sameNumber : back = half := unchanged.resolve_right fun isZero => nonzero isZero.1
  rw [rendered, sameNumber] at read
  exact ⟨rendered, read, zeroBack, zeroRead, equal⟩

end Number

end ScriptBridge
