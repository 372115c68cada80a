import ScriptBridge.Extraction.Extract
import ScriptBridge.Proofs.Arg.Map
import ScriptBridge.Proofs.Extraction.Matching

/-!
# Extraction as a computation that throws

`CallSite.extract` throws nothing: it records failures in a state and reads on.  This file
gives the reference that it implements, a pure extraction in the exception monad, and proves
that the two agree.  In the reference a table is its fitting entries, taken in order, a
mapping is the list of its pairs, and the first entry that throws ends everything.

Two facts carry the simulation.  A state with a failure passes through every reading
unchanged (`state_read_of_isSet`), so that what is still read after a failing key cannot
show.  And a reading that begins without a failure has the outcome of the reference
(`outcome_read`), by induction on the type and then on the entries of a table.
-/

namespace ScriptBridge

namespace FailureState

/-- What a computation that left this state comes to: its first failure or its result. -/
def outcome {Result : Type} (state : FailureState) (result : Result) :
    Except ArgumentError Result :=
  match state.first with
  | some error => .error error
  | none => .ok result

theorem eq_clear_of_not_isSet {state : FailureState} (notSet : ¬state.isSet = true) :
    state = clear := by
  rcases state with ⟨_ | first⟩
  · rfl
  · exact absurd rfl notSet

theorem isSet_clear : clear.isSet = false :=
  rfl

theorem outcome_map {Result Other : Type} (state : FailureState) (result : Result)
    (convert : Result → Other) :
    state.outcome (convert result) = convert <$> state.outcome result := by
  rcases state with ⟨_ | first⟩ <;> rfl

end FailureState

/-- What a reading comes to: its first failure, or the argument and the next position. -/
def Reading.outcome (reading : Reading) : Except ArgumentError (Arg × Nat) :=
  reading.state.outcome (reading.arg, reading.cursor)

theorem Reading.outcome_arg (reading : Reading) :
    reading.state.outcome reading.arg = Prod.fst <$> reading.outcome :=
  reading.state.outcome_map (reading.arg, reading.cursor) Prod.fst

theorem Reading.eq_of_outcome_eq_ok {reading : Reading} {arg : Arg} {next : Nat}
    (returned : reading.outcome = .ok (arg, next)) : reading = ⟨arg, next, .clear⟩ := by
  rcases reading with ⟨readArg, readNext, ⟨_ | error⟩⟩
  · simp only [outcome, FailureState.outcome, Except.ok.injEq, Prod.mk.injEq] at returned
    rw [returned.1, returned.2]
    rfl
  · simp [outcome, FailureState.outcome] at returned

theorem Reading.outcome_convert (reading : Reading) (convert : Arg → Arg) :
    ({ reading with arg := convert reading.arg } : Reading).outcome = (do
      let (arg, next) ← reading.outcome
      pure (convert arg, next)) := by
  rcases reading with ⟨arg, next, ⟨_ | error⟩⟩ <;> rfl

namespace CallSite

variable (site : CallSite)

/-! ## The reference -/

/-- The failure of a slot whose value is rejected for a type. -/
def rejection (argument : Nat) (type : ParamType) (slots : Slots) (position : Nat) :
    ArgumentError :=
  .badArgument .valueRejected site.function (type.displayName site.registries) argument
    (slots.describe site.registries position)

/-- A slot as a number: the undefined number and what is no number are thrown out. -/
def referenceNumber (argument : Nat) (kind : NumberKind) (slots : Slots) (position : Nat) :
    Except ArgumentError Arg :=
  match slots.numberAt position with
  | some number =>
      if number.isNaN then
        throw (.badArgument .valueRejected site.function "number" argument "NaN")
      else pure (numberArg kind number)
  | none => throw (site.rejection argument (.number kind) slots position)

/-- A slot as the value of the variant that it names. -/
def referenceEnumeration (argument : Nat) (id : EnumId) (slots : Slots) (position : Nat) :
    Except ArgumentError Arg :=
  match (slots.stringAt position).bind fun name =>
      name.toString?.bind (site.registries.enums.parse? id) with
  | some value => pure (.enumeration value)
  | none => throw (site.rejection argument (.enumeration id) slots position)

/-- A slot as an object of a class. -/
def referenceHandle (argument : Nat) (classId : ClassId) (slots : Slots) (position : Nat) :
    Except ArgumentError Arg :=
  match slots.handleAt position with
  | none => pure (.handle none)
  | some reference =>
      match site.registries.classes.downcast? reference.resolve classId with
      | some object => pure (.handle (some object))
      | none =>
          throw (.badArgument .valueRejected site.function
            (site.registries.classes.className classId) argument
            (site.registries.classes.instanceName reference.resolve))

mutual

/-- The argument of a type at a position, and the position of the next slot.

An optional type commits to its inner type only if the slot fits it coercibly.  A table
gives its coercibly fitting entries in order, and a mapping keeps of two pairs with one key
the place of the first and the value of the last. -/
def reference (argument : Nat) :
    ParamType → Slots → Nat → Except ArgumentError (Arg × Nat)
  | .number kind, slots, position => do
      let arg ← site.referenceNumber argument kind slots position
      pure (arg, position + 1)
  | .string, slots, position =>
      pure (.string ((slots.stringAt position).getD ⟨[]⟩), position + 1)
  | .boolean, slots, position => pure (.boolean (slots.booleanAt position), position + 1)
  | .enumeration id, slots, position => do
      let arg ← site.referenceEnumeration argument id slots position
      pure (arg, position + 1)
  | .optional inner, slots, position =>
      if inner.coerciblyMatchesAt slots position then do
        let (arg, next) ← reference argument inner slots position
        pure (.optional (some arg), next)
      else pure (.optional none, position)
  | .sequence element, slots, position => do
      let fitting := (slots.entriesAt position).filter fun entry =>
        element.coerciblyMatchesAt (.ofValues [entry.2]) 1
      let items ← fitting.mapM fun entry =>
        Prod.fst <$> reference argument element (.ofValues [entry.2]) 1
      pure (.sequence items, position + 1)
  | .mapping key item, slots, position => do
      let fitting := (slots.entriesAt position).filter fun entry =>
        key.coerciblyMatchesAt (.ofValues [entry.1, entry.2]) 1
          && item.coerciblyMatchesAt (.ofValues [entry.1, entry.2]) 2
      let pairs ← fitting.foldlM (fun pairs entry => do
        let keyArg ← Prod.fst <$> reference argument key (.ofValues [entry.1, entry.2]) 1
        let itemArg ← Prod.fst <$> reference argument item (.ofValues [entry.1, entry.2]) 2
        pure (Arg.writePair keyArg itemArg pairs)) []
      pure (.mapping pairs, position + 1)
  | .union alternatives, slots, position =>
      (referenceFirst argument alternatives 0 slots position).getD
        (pure (Arg.default (.union alternatives), position))
  | .handle classId, slots, position => do
      let arg ← site.referenceHandle argument classId slots position
      pure (arg, position + 1)
  | .callback, slots, position =>
      pure (.callback (slots.functionAt position), position + 1)
  | .context, _, position => pure (.context site.context, position)
  | .placeholder, _, position => pure (.placeholder, position)

/-- The argument of the first alternative that the slot fits; the alternatives are counted
on from `index`. -/
def referenceFirst (argument : Nat) :
    List ParamType → (index : Nat) → Slots → Nat →
      Option (Except ArgumentError (Arg × Nat))
  | [], _, _, _ => none
  | type :: rest, index, slots, position =>
      if type.matchesAt slots position then
        some do
          let (arg, next) ← reference argument type slots position
          pure (.union index arg, next)
      else referenceFirst argument rest (index + 1) slots position

end

/-- One parameter at the cursor: what does not fit its type is thrown out. -/
def referenceParam (type : ParamType) (slots : Slots) (cursor : Nat) :
    Except ArgumentError (Arg × Nat) :=
  if type.matchesAt slots (checkPosition type cursor) then
    site.reference cursor type slots cursor
  else
    throw (.badArgument .structuralMismatch site.function (type.displayName site.registries)
      cursor (slots.describe site.registries cursor))

/-- The parameters of a signature in turn, from a cursor on. -/
def referenceParams (slots : Slots) :
    List ParamType → Nat → Except ArgumentError (List Arg × Nat)
  | [], cursor => pure ([], cursor)
  | type :: rest, cursor => do
      let (arg, next) ← site.referenceParam type slots cursor
      let (args, last) ← referenceParams slots rest next
      pure (arg :: args, last)

theorem referenceFirst_eq (argument : Nat) (alternatives : List ParamType) (index : Nat)
    (slots : Slots) (position : Nat) :
    site.referenceFirst argument alternatives index slots position =
      (ParamType.firstFitting? alternatives index slots position).map (fun entry => do
        let (arg, next) ← site.reference argument entry.1 slots position
        pure (.union entry.2 arg, next)) := by
  induction alternatives generalizing index with
  | nil => rfl
  | cons type rest ih =>
      simp only [referenceFirst, ParamType.firstFitting?_cons, ih]
      split <;> rfl

theorem readFirst_eq (argument : Nat) (alternatives : List ParamType) (index : Nat)
    (slots : Slots) (position : Nat) (state : FailureState) :
    site.readFirst argument alternatives index slots position state =
      (ParamType.firstFitting? alternatives index slots position).map fun entry =>
        let reading := site.read argument entry.1 slots position state
        { reading with arg := .union entry.2 reading.arg } := by
  induction alternatives generalizing index with
  | nil => rfl
  | cons type rest ih =>
      simp only [readFirst, ParamType.firstFitting?_cons, ih]
      split <;> rfl

/-! ## A failed reading changes nothing -/

variable {site}

theorem state_readNumber_of_isSet {argument : Nat} {kind : NumberKind} {slots : Slots}
    {position : Nat} {state : FailureState} (alreadySet : state.isSet = true) :
    (site.readNumber argument kind slots position state).2 = state := by
  unfold readNumber
  split
  · split
    · exact FailureState.record_of_isSet _ alreadySet
    · rfl
  · exact FailureState.record_of_isSet _ alreadySet

theorem state_readEnumeration_of_isSet {argument : Nat} {id : EnumId} {slots : Slots}
    {position : Nat} {state : FailureState} (alreadySet : state.isSet = true) :
    (site.readEnumeration argument id slots position state).2 = state := by
  simp only [readEnumeration]
  split
  · rfl
  · exact FailureState.record_of_isSet _ alreadySet

theorem state_readHandle_of_isSet {argument : Nat} {classId : ClassId} {slots : Slots}
    {position : Nat} {state : FailureState} (alreadySet : state.isSet = true) :
    (site.readHandle argument classId slots position state).2 = state := by
  unfold readHandle
  split
  · rfl
  · split
    · rfl
    · exact FailureState.record_of_isSet _ alreadySet

theorem state_readItems_of_isSet {fits : Value → Bool}
    {readItem : Value → FailureState → Arg × FailureState} {state : FailureState}
    (alreadySet : state.isSet = true)
    (kept : ∀ value, (readItem value state).2 = state) (entries : List (Value × Value)) :
    (readItems fits readItem entries state).2 = state := by
  induction entries with
  | nil => rfl
  | cons entry rest ih =>
      simp only [readItems]
      split
      · rw [kept]
        simp [alreadySet]
      · exact ih

theorem state_readPairs_of_isSet {fits : Value → Value → Bool}
    {readKey readItem : Value → Value → FailureState → Arg × FailureState}
    {state : FailureState} (alreadySet : state.isSet = true)
    (keptByKey : ∀ key value, (readKey key value state).2 = state)
    (keptByItem : ∀ key value, (readItem key value state).2 = state)
    (entries : List (Value × Value)) (map : ArgMap) :
    (readPairs fits readKey readItem entries map state).2 = state := by
  induction entries with
  | nil => rfl
  | cons entry rest ih =>
      simp only [readPairs]
      split
      · rw [keptByKey, keptByItem]
        simp [alreadySet]
      · exact ih

/-- Once a failure is recorded, reading on leaves the state as it is. -/
theorem state_read_of_isSet {state : FailureState} (alreadySet : state.isSet = true)
    (type : ParamType) (argument : Nat) (slots : Slots) (position : Nat) :
    (site.read argument type slots position state).state = state := by
  induction type generalizing slots position with
  | number kind => exact state_readNumber_of_isSet alreadySet
  | string => rfl
  | boolean => rfl
  | enumeration id => exact state_readEnumeration_of_isSet alreadySet
  | optional inner ih =>
      simp only [read]
      split
      · exact ih slots position
      · rfl
  | sequence element ih =>
      exact state_readItems_of_isSet alreadySet (fun value => ih _ _) _
  | mapping key item ihKey ihItem =>
      exact state_readPairs_of_isSet alreadySet (fun _ _ => ihKey _ _)
        (fun _ _ => ihItem _ _) _ _
  | union alternatives ih =>
      simp only [read, readFirst_eq]
      cases found : ParamType.firstFitting? alternatives 0 slots position with
      | none => rfl
      | some entry => exact ih entry.1 (ParamType.mem_of_firstFitting? found) slots position
  | handle classId => exact state_readHandle_of_isSet alreadySet
  | callback => rfl
  | context => rfl
  | placeholder => rfl

/-! ## Readings have the outcome of the reference -/

theorem outcome_readNumber (argument : Nat) (kind : NumberKind) (slots : Slots)
    (position : Nat) :
    let (arg, state) := site.readNumber argument kind slots position .clear
    state.outcome arg = site.referenceNumber argument kind slots position := by
  simp only [readNumber, referenceNumber]
  cases slots.numberAt position with
  | none => rfl
  | some number =>
      simp only
      cases number.isNaN <;> rfl

theorem outcome_readEnumeration (argument : Nat) (id : EnumId) (slots : Slots)
    (position : Nat) :
    let (arg, state) := site.readEnumeration argument id slots position .clear
    state.outcome arg = site.referenceEnumeration argument id slots position := by
  simp only [readEnumeration, referenceEnumeration]
  cases (slots.stringAt position).bind fun name =>
    name.toString?.bind (site.registries.enums.parse? id) <;> rfl

theorem outcome_readHandle (argument : Nat) (classId : ClassId) (slots : Slots)
    (position : Nat) :
    let (arg, state) := site.readHandle argument classId slots position .clear
    state.outcome arg = site.referenceHandle argument classId slots position := by
  simp only [readHandle, referenceHandle]
  cases slots.handleAt position with
  | none => rfl
  | some reference =>
      simp only
      cases site.registries.classes.downcast? reference.resolve classId <;> rfl

/-- Reading the fitting values of a table's entries is reading them in turn, if reading one
of them is. -/
theorem outcome_readItems (fits : Value → Bool)
    (readItem : Value → FailureState → Arg × FailureState)
    (referenceItem : Value → Except ArgumentError Arg)
    (simulates : ∀ value,
      (readItem value .clear).2.outcome (readItem value .clear).1 = referenceItem value)
    (entries : List (Value × Value)) :
    let (items, state) := readItems fits readItem entries .clear
    state.outcome items =
      (entries.filter fun entry => fits entry.2).mapM fun entry => referenceItem entry.2 := by
  induction entries with
  | nil => rfl
  | cons entry rest ih =>
      rcases entry with ⟨key, value⟩
      simp only [readItems, List.filter_cons]
      split
      · rw [List.mapM_cons, ← simulates value]
        rcases readItem value .clear with ⟨item, ⟨_ | error⟩⟩
        · have kept : (⟨none⟩ : FailureState) = .clear := rfl
          rw [kept, ← ih]
          rcases readItems fits readItem rest .clear with ⟨items, ⟨_ | error⟩⟩ <;> rfl
        · rfl
      · exact ih

/-- Reading the fitting entries of a table into a map is writing them in turn onto the list
of its pairs, if reading a key and reading an item are.  What is read of an item after its
key failed leaves no trace in the outcome. -/
theorem outcome_readPairs (fits : Value → Value → Bool)
    (readKey readItem : Value → Value → FailureState → Arg × FailureState)
    (referenceKey referenceItem : Value → Value → Except ArgumentError Arg)
    (simulatesKey : ∀ key value,
      (readKey key value .clear).2.outcome (readKey key value .clear).1 =
        referenceKey key value)
    (simulatesItem : ∀ key value,
      (readItem key value .clear).2.outcome (readItem key value .clear).1 =
        referenceItem key value)
    (keptByItem : ∀ key value (state : FailureState), state.isSet = true →
      (readItem key value state).2 = state)
    (entries : List (Value × Value)) {map : ArgMap} (indexed : map.Indexed) :
    let (map', state) := readPairs fits readKey readItem entries map .clear
    state.outcome map'.toList =
      (entries.filter fun entry => fits entry.1 entry.2).foldlM (fun pairs entry => do
        let keyArg ← referenceKey entry.1 entry.2
        let itemArg ← referenceItem entry.1 entry.2
        pure (Arg.writePair keyArg itemArg pairs)) map.toList := by
  induction entries generalizing map with
  | nil => rfl
  | cons entry rest ih =>
      rcases entry with ⟨key, value⟩
      simp only [readPairs, List.filter_cons]
      split
      · rw [List.foldlM_cons, ← simulatesKey key value]
        rcases readKey key value .clear with ⟨keyArg, ⟨_ | error⟩⟩
        · have kept : (⟨none⟩ : FailureState) = .clear := rfl
          rw [kept, ← simulatesItem key value]
          rcases readItem key value .clear with ⟨itemArg, ⟨_ | error⟩⟩
          · have written := ih (ArgMap.indexed_insert indexed keyArg itemArg)
            rw [ArgMap.toList_insert indexed] at written
            exact written
          · rfl
        · simp only [keptByItem key value ⟨some error⟩ rfl]
          rfl
      · exact ih indexed

/-- Reading an entry has the outcome of the reference on it if reading its type has. -/
theorem outcome_entry {argument : Nat} {type : ParamType}
    (simulates : ∀ slots position,
      (site.read argument type slots position .clear).outcome =
        site.reference argument type slots position)
    (slots : Slots) (position : Nat) :
    (site.read argument type slots position .clear).state.outcome
        (site.read argument type slots position .clear).arg =
      Prod.fst <$> site.reference argument type slots position := by
  rw [← simulates]
  exact Reading.outcome_arg _

theorem outcome_read_sequence {argument : Nat} {element : ParamType}
    (simulates : ∀ slots position,
      (site.read argument element slots position .clear).outcome =
        site.reference argument element slots position)
    (slots : Slots) (position : Nat) :
    (site.read argument (.sequence element) slots position .clear).outcome =
      site.reference argument (.sequence element) slots position := by
  have simulated := outcome_readItems
    (fun value => element.coerciblyMatchesAt (.ofValues [value]) 1)
    (fun value state =>
      let reading := site.read argument element (.ofValues [value]) 1 state
      (reading.arg, reading.state))
    (fun value => Prod.fst <$> site.reference argument element (.ofValues [value]) 1)
    (fun value => outcome_entry simulates (.ofValues [value]) 1)
    (slots.entriesAt position)
  simp only [read, reference, Reading.outcome] at simulated ⊢
  rw [← simulated]
  exact FailureState.outcome_map _ _ fun items => (Arg.sequence items, position + 1)

theorem outcome_read_mapping {argument : Nat} {key item : ParamType}
    (simulatesKey : ∀ slots position,
      (site.read argument key slots position .clear).outcome =
        site.reference argument key slots position)
    (simulatesItem : ∀ slots position,
      (site.read argument item slots position .clear).outcome =
        site.reference argument item slots position)
    (slots : Slots) (position : Nat) :
    (site.read argument (.mapping key item) slots position .clear).outcome =
      site.reference argument (.mapping key item) slots position := by
  have simulated := outcome_readPairs
    (fun left right =>
      key.coerciblyMatchesAt (.ofValues [left, right]) 1
        && item.coerciblyMatchesAt (.ofValues [left, right]) 2)
    (fun left right state =>
      let reading := site.read argument key (.ofValues [left, right]) 1 state
      (reading.arg, reading.state))
    (fun left right state =>
      let reading := site.read argument item (.ofValues [left, right]) 2 state
      (reading.arg, reading.state))
    (fun left right => Prod.fst <$> site.reference argument key (.ofValues [left, right]) 1)
    (fun left right => Prod.fst <$> site.reference argument item (.ofValues [left, right]) 2)
    (fun left right => outcome_entry simulatesKey (.ofValues [left, right]) 1)
    (fun left right => outcome_entry simulatesItem (.ofValues [left, right]) 2)
    (fun left right state alreadySet => state_read_of_isSet alreadySet item argument _ _)
    (slots.entriesAt position) ArgMap.indexed_empty
  simp only [read, reference, Reading.outcome, ArgMap.toArg] at simulated ⊢
  have emptied : ArgMap.empty.toList = [] := rfl
  rw [← emptied, ← simulated]
  exact FailureState.outcome_map _ _ fun pairs => (Arg.mapping pairs, position + 1)

theorem outcome_read_union {argument : Nat} {alternatives : List ParamType}
    (simulates : ∀ type ∈ alternatives, ∀ slots position,
      (site.read argument type slots position .clear).outcome =
        site.reference argument type slots position)
    (slots : Slots) (position : Nat) :
    (site.read argument (.union alternatives) slots position .clear).outcome =
      site.reference argument (.union alternatives) slots position := by
  simp only [read, reference, readFirst_eq, referenceFirst_eq]
  cases found : ParamType.firstFitting? alternatives 0 slots position with
  | none => rfl
  | some entry =>
      have simulated := simulates entry.1 (ParamType.mem_of_firstFitting? found) slots position
      simp only [Option.map_some, Option.getD_some, ← simulated]
      exact Reading.outcome_convert _ (Arg.union entry.2)

/-- A reading that begins without a failure has the outcome of the reference. -/
theorem outcome_read (type : ParamType) (argument : Nat) (slots : Slots) (position : Nat) :
    (site.read argument type slots position .clear).outcome =
      site.reference argument type slots position := by
  induction type generalizing slots position with
  | number kind =>
      have simulated := site.outcome_readNumber argument kind slots position
      simp only [read, reference, ← simulated]
      exact FailureState.outcome_map _ _ fun arg => (arg, position + 1)
  | string => rfl
  | boolean => rfl
  | enumeration id =>
      have simulated := site.outcome_readEnumeration argument id slots position
      simp only [read, reference, ← simulated]
      exact FailureState.outcome_map _ _ fun arg => (arg, position + 1)
  | optional inner ih =>
      simp only [read, reference, ← ih]
      split
      · exact Reading.outcome_convert _ fun arg => .optional (some arg)
      · rfl
  | sequence element ih => exact outcome_read_sequence ih slots position
  | mapping key item ihKey ihItem => exact outcome_read_mapping ihKey ihItem slots position
  | union alternatives ih => exact outcome_read_union ih slots position
  | handle classId =>
      have simulated := site.outcome_readHandle argument classId slots position
      simp only [read, reference, ← simulated]
      exact FailureState.outcome_map _ _ fun arg => (arg, position + 1)
  | callback => rfl
  | context => rfl
  | placeholder => rfl

/-- The reference returns what is read without a failure. -/
theorem reference_of_clear {type : ParamType} {argument : Nat} {slots : Slots} {position : Nat}
    (unfailed : (site.read argument type slots position .clear).state = .clear) :
    site.reference argument type slots position =
      .ok ((site.read argument type slots position .clear).arg,
        (site.read argument type slots position .clear).cursor) := by
  rw [← outcome_read, Reading.outcome, unfailed]
  rfl

/-! ## One parameter -/

theorem matchesAt_checkPosition {type : ParamType} {slots : Slots} {position : Nat}
    (fits : type.matchesAt slots position = true) :
    type.matchesAt slots (checkPosition type position) = true := by
  cases type <;> first | exact fits | rfl

theorem matchesAt_checkPosition_congr {type : ParamType} {slots other : Slots} {cursor : Nat}
    (same : type.matchesAt slots cursor = type.matchesAt other cursor) :
    type.matchesAt slots (checkPosition type cursor) =
      type.matchesAt other (checkPosition type cursor) := by
  cases type with
  -- The context has a position of its own, whose slot nothing is asked about.
  | context => rfl
  | _ => exact same

theorem extract_of_fits {type : ParamType} {slots : Slots} {cursor : Nat}
    (fits : type.matchesAt slots (checkPosition type cursor) = true) :
    site.extract type slots cursor .clear = site.read cursor type slots cursor .clear := by
  simp [extract, FailureState.isSet, FailureState.clear, fits]

theorem extract_of_unfit {type : ParamType} {slots : Slots} {cursor : Nat}
    (unfit : type.matchesAt slots (checkPosition type cursor) = false) :
    site.extract type slots cursor .clear = ⟨Arg.default type, cursor,
      ⟨some (.badArgument .structuralMismatch site.function (type.displayName site.registries)
        cursor (slots.describe site.registries cursor))⟩⟩ := by
  simp [extract, FailureState.isSet, FailureState.clear, FailureState.record, fail, unfit]

/-- A parameter that is extracted without a failure is read without one. -/
theorem extract_of_unfailed {type : ParamType} {slots : Slots} {cursor : Nat}
    (unfailed : (site.extract type slots cursor .clear).state.isSet = false) :
    site.extract type slots cursor .clear = site.read cursor type slots cursor .clear ∧
      (site.read cursor type slots cursor .clear).state = .clear := by
  cases fits : type.matchesAt slots (checkPosition type cursor) with
  | false =>
      rw [extract_of_unfit fits] at unfailed
      cases unfailed
  | true =>
      rw [extract_of_fits fits] at unfailed ⊢
      exact ⟨rfl, FailureState.eq_clear_of_not_isSet (ne_true_of_eq_false unfailed)⟩

variable (site)

theorem outcome_extract (type : ParamType) (slots : Slots) (cursor : Nat) :
    (site.extract type slots cursor .clear).outcome =
      site.referenceParam type slots cursor := by
  simp only [extract, referenceParam, FailureState.isSet_clear, Bool.false_eq_true, if_false]
  split
  · exact outcome_read type cursor slots cursor
  · rfl

/-! ## Whole signatures -/

/-- Extracting a signature has the outcome of the reference: its loop stops at the first
parameter that the reference throws out. -/
theorem outcome_extractAll (slots : Slots) (params : List ParamType) (start : Nat) :
    let (args, cursor, state) := site.extractAll slots params start .clear
    state.outcome (args, cursor) = site.referenceParams slots params start := by
  induction params generalizing start with
  | nil => rfl
  | cons type rest ih =>
      simp only [extractAll, referenceParams, ← outcome_extract]
      rcases site.extract type slots start .clear with ⟨arg, next, ⟨_ | error⟩⟩
      · rcases restRead : site.extractAll slots rest next ⟨none⟩ with ⟨args, last, state⟩
        have restOutcome : state.outcome (args, last) = site.referenceParams slots rest next := by
          have simulated := ih next
          rw [FailureState.clear, restRead] at simulated
          exact simulated
        change state.outcome (arg :: args, last) = (do
          let (args, last) ← site.referenceParams slots rest next
          pure (arg :: args, last))
        rw [← restOutcome]
        exact state.outcome_map (args, last) fun (args, last) => (arg :: args, last)
      · rfl

/-- Extraction refines the reference.  It ends without a failure, with certain arguments
and at a certain cursor, exactly if the reference returns these, and it ends with a certain
failure exactly if the reference throws that failure. -/
theorem extractAll_refines_reference (slots : Slots) (params : List ParamType)
    (start : Nat) :
    (∀ args cursor,
      site.extractAll slots params start .clear = (args, cursor, .clear) ↔
        site.referenceParams slots params start = .ok (args, cursor)) ∧
    ∀ error,
      (site.extractAll slots params start .clear).2.2.first = some error ↔
        site.referenceParams slots params start = .error error := by
  have simulated := site.outcome_extractAll slots params start
  rcases extracted : site.extractAll slots params start .clear with ⟨args, cursor, ⟨_ | error⟩⟩
  · rw [extracted] at simulated
    rw [← simulated]
    simp [FailureState.outcome, FailureState.clear]
  · rw [extracted] at simulated
    rw [← simulated]
    simp [FailureState.outcome, FailureState.clear]

end CallSite

end ScriptBridge
