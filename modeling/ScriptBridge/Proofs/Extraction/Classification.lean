import ScriptBridge.Proofs.Extraction.Locality

/-!
# What a failure says, and where the cursor goes

A slot that does not fit a type at all is a structural mismatch: the argument is the type's
default and the slot is left.  A slot that fits is used, unless the type comes down to something
that uses none (`ParamType.LeavesSlot`), and then the only failures are rejected values.

What is rejected may lie deep in tables within tables.  `CallSite.Offends` says what it can be,
and how it is described, with no regard to the parameter that it belongs to.  The faults of a
parameter are what offends in its slot, reported at the parameter's own position
(`mem_faults_iff`): the positions of keys and values within an entry show nowhere.
-/

namespace ScriptBridge

namespace ParamType

/-- The alternative that a union is read as is the one that matching chooses. -/
theorem firstFitting?_eq_some_iff {alternatives : List ParamType} {slots : Slots}
    {position : Nat} {entry : ParamType × Nat} :
    firstFitting? alternatives 0 slots position = some entry ↔
      firstMatch? alternatives slots position = some entry.2 ∧
        alternatives[entry.2]? = some entry.1 := by
  have sameIndex : firstMatch? alternatives slots position =
      (firstFitting? alternatives 0 slots position).map Prod.snd :=
    List.findIdx?_eq_fst_find?_zipIdx
  rw [sameIndex]
  constructor
  · intro found
    exact ⟨by rw [found, Option.map_some], getElem?_of_firstFitting? found⟩
  · rintro ⟨chosen, declared⟩
    rcases Option.map_eq_some_iff.mp chosen with ⟨other, found, sameIndex⟩
    have otherDeclared := getElem?_of_firstFitting? found
    rw [sameIndex, declared] at otherDeclared
    rw [found, Prod.ext (Option.some.inj otherDeclared).symm sameIndex]

end ParamType

namespace CallSite

variable (site : CallSite)

/-! ## Rejected values -/

/-- Something in the slot at a position is rejected for a type: itself, or an entry of a table
that it holds, however deep.  It goes by what is expected in its place and by what is got. -/
inductive Offends : ParamType → Slots → Nat → (expected got : String) → Prop where
  | undefinedNumber {kind : NumberKind} {slots : Slots} {position : Nat} {number : Number}
      (held : slots.numberAt position = some number) (undefined : number.isNaN = true) :
      Offends (.number kind) slots position "number" "NaN"
  | noNumber {kind : NumberKind} {slots : Slots} {position : Nat}
      (unreadable : slots.numberAt position = none) :
      Offends (.number kind) slots position "number" (slots.describe site.registries position)
  | noVariant {id : EnumId} {slots : Slots} {position : Nat}
      (unknown : ∀ bytes name, slots.stringAt position = some bytes →
        bytes.toString? = some name → site.registries.enums.parse? id name = none) :
      Offends (.enumeration id) slots position
        ((ParamType.enumeration id).displayName site.registries)
        (slots.describe site.registries position)
  | otherClass {classId : ClassId} {slots : Slots} {position : Nat} {reference : HandleRef}
      (held : slots.handleAt position = some reference)
      (refused : site.registries.classes.downcast? reference.resolve classId = none) :
      Offends (.handle classId) slots position (site.registries.classes.className classId)
        (site.registries.classes.instanceName reference.resolve)
  | present {inner : ParamType} {slots : Slots} {position : Nat} {expected got : String}
      (fits : inner.coerciblyMatchesAt slots position = true)
      (offends : Offends inner slots position expected got) :
      Offends (.optional inner) slots position expected got
  | element {element : ParamType} {slots : Slots} {position : Nat} {expected got : String}
      {entry : Value × Value} (listed : entry ∈ slots.entriesAt position)
      (fits : element.coerciblyMatchesAt (.ofValues [entry.2]) 1 = true)
      (offends : Offends element (.ofValues [entry.2]) 1 expected got) :
      Offends (.sequence element) slots position expected got
  | key {key item : ParamType} {slots : Slots} {position : Nat} {expected got : String}
      {entry : Value × Value} (listed : entry ∈ slots.entriesAt position)
      (keyFits : key.coerciblyMatchesAt (.ofValues [entry.1, entry.2]) 1 = true)
      (itemFits : item.coerciblyMatchesAt (.ofValues [entry.1, entry.2]) 2 = true)
      (offends : Offends key (.ofValues [entry.1, entry.2]) 1 expected got) :
      Offends (.mapping key item) slots position expected got
  | item {key item : ParamType} {slots : Slots} {position : Nat} {expected got : String}
      {entry : Value × Value} (listed : entry ∈ slots.entriesAt position)
      (keyFits : key.coerciblyMatchesAt (.ofValues [entry.1, entry.2]) 1 = true)
      (itemFits : item.coerciblyMatchesAt (.ofValues [entry.1, entry.2]) 2 = true)
      (offends : Offends item (.ofValues [entry.1, entry.2]) 2 expected got) :
      Offends (.mapping key item) slots position expected got
  | chosen {alternatives : List ParamType} {index : Nat} {type : ParamType} {slots : Slots}
      {position : Nat} {expected got : String}
      (first : ParamType.firstMatch? alternatives slots position = some index)
      (declared : alternatives[index]? = some type)
      (offends : Offends type slots position expected got) :
      Offends (.union alternatives) slots position expected got

variable {site}

theorem mem_faults_of_offends {type : ParamType} {slots : Slots} {position : Nat}
    {expected got : String} (offends : site.Offends type slots position expected got)
    (argument : Nat) :
    .badArgument .valueRejected site.function expected argument got ∈
      site.faults argument type slots position := by
  induction offends with
  | undefinedNumber held undefined => simp [faults, referenceNumber, held, undefined]
  | noNumber unreadable =>
      simp [faults, referenceNumber, unreadable, rejection, ParamType.displayName]
  | @noVariant id slots position unknown =>
      have noValue : ((slots.stringAt position).bind fun name =>
          name.toString?.bind (site.registries.enums.parse? id)) = none := by
        simpa only [Option.bind_eq_none_iff] using fun bytes held name spelled =>
          unknown bytes name held spelled
      simp [faults, referenceEnumeration, noValue, rejection]
  | otherClass held refused => simp [faults, referenceHandle, held, refused]
  | present fits _ ih => simpa only [faults, fits, if_true] using ih
  | element listed fits _ ih =>
      simp only [faults, List.mem_flatMap, List.mem_filter]
      exact ⟨_, ⟨listed, fits⟩, ih⟩
  | key listed keyFits itemFits _ ih =>
      simp only [faults, List.mem_flatMap, List.mem_filter, List.mem_append, Bool.and_eq_true]
      exact ⟨_, ⟨listed, keyFits, itemFits⟩, Or.inl ih⟩
  | item listed keyFits itemFits _ ih =>
      simp only [faults, List.mem_flatMap, List.mem_filter, List.mem_append, Bool.and_eq_true]
      exact ⟨_, ⟨listed, keyFits, itemFits⟩, Or.inr ih⟩
  | @chosen alternatives index type slots position _ _ first declared _ ih =>
      have found : ParamType.firstFitting? alternatives 0 slots position = some (type, index) :=
        ParamType.firstFitting?_eq_some_iff.mpr ⟨first, declared⟩
      simpa only [faults, faultsOfFirst_eq site argument alternatives 0, found] using ih

theorem offends_of_mem_faults {type : ParamType} {argument : Nat} {slots : Slots}
    {position : Nat} {fault : ArgumentError}
    (member : fault ∈ site.faults argument type slots position) :
    ∃ expected got, site.Offends type slots position expected got ∧
      fault = .badArgument .valueRejected site.function expected argument got := by
  induction type generalizing slots position with
  | number kind =>
      simp only [faults, referenceNumber] at member
      split at member
      · rename_i number held
        split at member
        · rename_i undefined
          exact ⟨_, _, .undefinedNumber held undefined, by simpa using member⟩
        · simp at member
      · rename_i unreadable
        exact ⟨_, _, .noNumber unreadable, by simpa [rejection, ParamType.displayName] using member⟩
  | enumeration id =>
      simp only [faults, referenceEnumeration] at member
      split at member
      · simp at member
      · rename_i noValue
        refine ⟨_, _, .noVariant ?_, by simpa [rejection] using member⟩
        intro bytes name held spelled
        simpa [held, spelled] using noValue
  | handle classId =>
      simp only [faults, referenceHandle] at member
      split at member
      · simp at member
      · rename_i reference held
        split at member
        · simp at member
        · rename_i refused
          exact ⟨_, _, .otherClass held refused, by simpa using member⟩
  | optional inner ih =>
      simp only [faults] at member
      split at member
      · rename_i fits
        rcases ih member with ⟨expected, got, offends, reported⟩
        exact ⟨expected, got, .present fits offends, reported⟩
      · simp at member
  | sequence element ih =>
      simp only [faults, List.mem_flatMap, List.mem_filter] at member
      rcases member with ⟨entry, ⟨listed, fits⟩, entryFault⟩
      rcases ih entryFault with ⟨expected, got, offends, reported⟩
      exact ⟨expected, got, .element listed fits offends, reported⟩
  | mapping key item ihKey ihItem =>
      simp only [faults, List.mem_flatMap, List.mem_filter, List.mem_append,
        Bool.and_eq_true] at member
      rcases member with ⟨entry, ⟨listed, keyFits, itemFits⟩, keyFault | itemFault⟩
      · rcases ihKey keyFault with ⟨expected, got, offends, reported⟩
        exact ⟨expected, got, .key listed keyFits itemFits offends, reported⟩
      · rcases ihItem itemFault with ⟨expected, got, offends, reported⟩
        exact ⟨expected, got, .item listed keyFits itemFits offends, reported⟩
  | union alternatives ih =>
      simp only [faults, faultsOfFirst_eq site argument alternatives 0] at member
      split at member
      · rename_i entry found
        rcases ParamType.firstFitting?_eq_some_iff.mp found with ⟨first, declared⟩
        rcases ih entry.1 (ParamType.mem_of_firstFitting? found) member with
          ⟨expected, got, offends, reported⟩
        exact ⟨expected, got, .chosen first declared offends, reported⟩
      · simp at member
  | _ => simp [faults] at member

/-- The faults of a slot are what offends in it, each reported at the position of the parameter
and under the name of the function. -/
theorem mem_faults_iff {type : ParamType} {argument : Nat} {slots : Slots} {position : Nat}
    {fault : ArgumentError} :
    fault ∈ site.faults argument type slots position ↔
      ∃ expected got, site.Offends type slots position expected got ∧
        fault = .badArgument .valueRejected site.function expected argument got := by
  constructor
  · exact offends_of_mem_faults
  · rintro ⟨expected, got, offends, rfl⟩
    exact mem_faults_of_offends offends argument

/-! ## Slots that are left -/

variable (site) in
/-- What there is to report of a parameter at the cursor: that its slot does not fit, or that
something in a slot that fits is rejected. -/
inductive Reportable (type : ParamType) (slots : Slots) (cursor : Nat) :
    FailureKind → (expected got : String) → Prop where
  | misfit (unfit : type.matchesAt slots (checkPosition type cursor) = false) :
      Reportable type slots cursor .structuralMismatch (type.displayName site.registries)
        (slots.describe site.registries cursor)
  | rejected {expected got : String}
      (fits : type.matchesAt slots (checkPosition type cursor) = true)
      (offends : site.Offends type slots cursor expected got) :
      Reportable type slots cursor .valueRejected expected got

theorem mem_paramFaults_iff {type : ParamType} {slots : Slots} {cursor : Nat}
    {fault : ArgumentError} :
    fault ∈ site.paramFaults type slots cursor ↔
      ∃ kind expected got, site.Reportable type slots cursor kind expected got ∧
        fault = .badArgument kind site.function expected cursor got := by
  simp only [paramFaults]
  split
  · rename_i fits
    rw [mem_faults_iff]
    constructor
    · rintro ⟨expected, got, offends, reported⟩
      exact ⟨_, expected, got, .rejected fits offends, reported⟩
    · rintro ⟨_, _, _, unfit | ⟨_, offends⟩, reported⟩
      · rw [fits] at unfit
        cases unfit
      · exact ⟨_, _, offends, reported⟩
  · rename_i unfit
    rw [List.mem_singleton]
    constructor
    · intro reported
      exact ⟨_, _, _, .misfit (Bool.eq_false_iff.mpr unfit), reported⟩
    · rintro ⟨_, _, _, _ | ⟨fits, _⟩, reported⟩
      · exact reported
      · exact absurd fits unfit

/-- A failure is recorded if there is something to report, and only then. -/
theorem extract_isSet_iff {type : ParamType} {slots : Slots} {cursor : Nat} :
    (site.extract type slots cursor .clear).state.isSet = true ↔
      ∃ kind expected got, site.Reportable type slots cursor kind expected got := by
  rw [FailureState.isSet, first_extract, List.isSome_head?]
  constructor
  · intro faulty
    rcases List.exists_mem_of_ne_nil _ faulty with ⟨fault, member⟩
    rcases mem_paramFaults_iff.mp member with ⟨kind, expected, got, reportable, _⟩
    exact ⟨kind, expected, got, reportable⟩
  · rintro ⟨kind, expected, got, reportable⟩
    exact List.ne_nil_of_mem
      (mem_paramFaults_iff.mpr ⟨kind, expected, got, reportable, rfl⟩)

end CallSite

end ScriptBridge
