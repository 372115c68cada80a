import ScriptBridge.Proofs.Extraction.NumberText
import ScriptBridge.Proofs.Extraction.Soundness
import ScriptBridge.Proofs.Native.Conversion
import ScriptBridge.Proofs.Number.Saturation

/-!
# Parameters of the integer kinds

A number that is handed over where an integer is declared loses its fraction, toward zero, and
ends at a bound of the kind if it exceeds it.  So every defined number becomes an integer that the
native type of the kind can hold, and only the undefined number is rejected.
-/

namespace ScriptBridge

/-- The slot is of a kind that numbers are read from, and reads as this number. -/
structure Slots.ReadsNumberAt (slots : Slots) (position : Nat) (number : Number) : Prop where
  kind : slots.kindAt position = .number ∨ slots.kindAt position = .string
  number : slots.numberAt position = some number

/-- A slot that holds a value reads as the number that the value coerces to. -/
theorem Slots.HoldsAt.readsNumberAt {slots : Slots} {position : Nat} {value : Value}
    (holds : slots.HoldsAt position value) {number : Number}
    (coerced : value.toNumber? = some number) : slots.ReadsNumberAt position number := by
  refine ⟨?_, holds.number.trans coerced⟩
  rw [holds.kind]
  cases value with
  | number => exact .inl rfl
  | string => exact .inr rfl
  | _ => cases coerced

namespace NumberKind

variable {kind : NumberKind} {low high : Int}

/-- Every integer kind is the kind of a native width, with the bounds of that width. -/
theorem exists_width (bounded : kind.integerBounds? = some (low, high)) :
    ∃ width : IntegerWidth,
      width.numberKind? = some kind ∧ width.low = low ∧ width.high = high := by
  have isKind : ∃ width : IntegerWidth, width.numberKind? = some kind := by
    cases kind with
    | int16 => exact ⟨.int16, rfl⟩
    | uint16 => exact ⟨.uint16, rfl⟩
    | int32 => exact ⟨.int32, rfl⟩
    | uint32 => exact ⟨.uint32, rfl⟩
    | single => cases bounded
    | double => cases bounded
  rcases isKind with ⟨width, declared⟩
  have sameBounds := (IntegerWidth.integerBounds_of_numberKind declared).symm.trans bounded
  cases sameBounds
  exact ⟨width, declared, rfl, rfl⟩

end NumberKind

namespace CallSite

variable {site : CallSite} {slots : Slots} {position : Nat} {kind : NumberKind}

theorem matchesAt_of_readsNumberAt {number : Number} (reads : slots.ReadsNumberAt position number) :
    (ParamType.number kind).matchesAt slots position = true := by
  simpa [ParamType.matchesAt, ParamType.accepts] using reads.kind

/-- A slot that reads as a defined number gives the argument of the number. -/
theorem extract_number_of_readsNumberAt {number : Number}
    (reads : slots.ReadsNumberAt position number) (defined : number.isNaN = false) :
    site.extract (.number kind) slots position .clear =
      ⟨numberArg kind number, position + 1, .clear⟩ := by
  rw [extract_of_fits (matchesAt_of_readsNumberAt reads)]
  simp only [read, readNumber, reads.number, defined, Bool.false_eq_true, if_false]

/-- A slot that reads as the undefined number is rejected. -/
theorem extract_number_of_nan (reads : slots.ReadsNumberAt position .nan) :
    site.extract (.number kind) slots position .clear =
      ⟨Arg.default (.number kind), position + 1,
        ⟨some (.badArgument .valueRejected site.function "number" position "NaN")⟩⟩ := by
  rw [extract_of_fits (matchesAt_of_readsNumberAt reads)]
  simp only [read, readNumber, reads.number, Number.isNaN, if_true]
  rfl

end CallSite

namespace NumberKind

/-- A parameter of an integer kind takes every defined number, cut toward zero and moved into the
bounds of the kind, which is what cutting, clamping and casting the number in turn comes to.  The
integer does not decrease if the number grows, it is the number itself if that is an integer within
the bounds, and the native type of the kind holds it.  The undefined number is always rejected, and
gives the default. -/
theorem integer_extracted {kind : NumberKind} {low high : Int}
    (bounded : kind.integerBounds? = some (low, high)) :
    (∀ (site : CallSite) (slots : Slots) (position : Nat) (number : Number)
      (value : WithBot (WithTop ℚ)),
      slots.ReadsNumberAt position number → number.extended? = some value →
        site.extract (.number kind) slots position .clear =
          ⟨.integer (saturated low high value), position + 1, .clear⟩ ∧
        (Number.clamp kind.bounds.1 kind.bounds.2 number.cut).saturate
          (IntegerWidth.low .int64) (IntegerWidth.high .int64) = saturated low high value) ∧
    Monotone (saturated low high) ∧
    (∀ value : Int, low ≤ value → value ≤ high →
      saturated low high ((value : ℚ) : WithTop ℚ) = value) ∧
    (∃ width : IntegerWidth, width.numberKind? = some kind ∧
      ∀ value, ∃ held : width.Carrier, held.val = saturated low high value ∧
        (NativeType.integer width).ofArg (.integer (saturated low high value)) = .ok held) ∧
    ∀ (site : CallSite) (slots : Slots) (position : Nat),
      slots.ReadsNumberAt position .nan →
        ∃ error, error.kind = .valueRejected ∧
          site.extract (.number kind) slots position .clear =
            ⟨Arg.default (.number kind), position + 1, ⟨some error⟩⟩ := by
  have ordered := low_le_high bounded
  rcases exists_width bounded with ⟨width, declared, rfl, rfl⟩
  have lowSmall := IntegerWidth.natAbs_lt declared ⟨le_rfl, ordered⟩
  have highSmall := IntegerWidth.natAbs_lt declared ⟨ordered, le_rfl⟩
  have within64 : IntegerWidth.low .int64 ≤ width.low ∧ width.high ≤ IntegerWidth.high .int64 := by
    cases width <;> decide
  have asNumbers : kind.bounds = (.ofInt width.low, .ofInt width.high) := by
    rw [bounds, bounded]
  refine ⟨?_, saturated_mono ordered, fun value above below => saturated_intCast ⟨above, below⟩,
    ⟨width, declared, ?_⟩, ?_⟩
  · intro site slots position number value reads standsFor
    have defined := Number.isNaN_of_extended? standsFor
    have cut := number.saturate_eq_saturated width.low width.high standsFor
    constructor
    · rw [CallSite.extract_number_of_readsNumberAt reads defined, CallSite.numberArg, bounded,
        ← cut]
    · rw [asNumbers, ← cut]
      exact Number.saturate_clamp_cut ordered lowSmall highSmall within64 defined
  · intro value
    have fits := saturated_mem_bounds ordered value
    exact ⟨⟨_, fits⟩, rfl, IntegerWidth.ofInt_of_mem fits⟩
  · intro site slots position reads
    exact ⟨_, rfl, CallSite.extract_number_of_nan reads⟩

/-- Seven halves below zero, as a number and as a text, and an infinity. -/
theorem integer_extracted_halves :
    let site : CallSite := ⟨"setHeat", ⟨0⟩, default⟩
    let slots : Slots := .ofValues [.number (.ofRatio true 7 2), .string (.ofString "-3.5"),
      .number (.infinite false), .number .nan]
    let extract (kind : NumberKind) (position : Nat) : Reading :=
      site.extract (.number kind) slots position .clear
    NumberKind.integerBounds? .int16 = some (-32768, 32767) ∧
      extract .int16 1 = ⟨.integer (-3), 2, .clear⟩ ∧
      extract .int16 2 = ⟨.integer (-3), 3, .clear⟩ ∧
      extract .uint32 1 = ⟨.integer 0, 2, .clear⟩ ∧
      extract .int16 3 = ⟨.integer 32767, 4, .clear⟩ ∧
      ∃ error, error.kind = .valueRejected ∧ extract .int16 4 = ⟨.integer 0, 5, ⟨some error⟩⟩ := by
  intro site slots extract
  have readsAt {position : Nat} {value : Value} {number : Number}
      (found : Slots.valueAt? _ position = some value) (coerced : value.toNumber? = some number) :
      slots.ReadsNumberAt position number :=
    (Slots.holdsAt_ofValues found).readsNumberAt coerced
  have halves : (Number.ofRatio true 7 2).isNaN = false := by decide +kernel
  rcases Number.exists_extended halves with ⟨value, standsFor⟩
  have toSigned : saturated (-32768) 32767 value = -3 :=
    (Number.saturate_eq_saturated _ _ standsFor).symm.trans (by decide +kernel)
  have toUnsigned : saturated 0 4294967295 value = 0 :=
    (Number.saturate_eq_saturated _ _ standsFor).symm.trans (by decide +kernel)
  rcases @integer_extracted .int16 _ _ rfl with ⟨signed, -, -, -, rejected⟩
  have unsigned := (@integer_extracted .uint32 _ _ rfl).1
  refine ⟨rfl, ?_, ?_, ?_, ?_, ?_⟩
  · rw [← toSigned]
    exact (signed site slots 1 _ _ (readsAt rfl rfl) standsFor).1
  · have coerced : (Value.string (.ofString "-3.5")).toNumber? = some (.ofRatio true 7 2) := by
      decide +kernel
    rw [← toSigned]
    exact (signed site slots 2 _ _ (readsAt rfl coerced) standsFor).1
  · rw [← toUnsigned]
    exact (unsigned site slots 1 _ _ (readsAt rfl rfl) standsFor).1
  · exact (signed site slots 3 _ _ (readsAt rfl rfl) rfl).1
  · exact rejected site slots 4 (readsAt rfl rfl)

end NumberKind

end ScriptBridge
