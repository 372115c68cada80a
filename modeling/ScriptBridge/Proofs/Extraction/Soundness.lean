import ScriptBridge.Binding.Call
import ScriptBridge.Proofs.Exception
import ScriptBridge.Proofs.Extraction.Reference
import ScriptBridge.Proofs.Number.Rounding

/-!
# Extraction delivers valid arguments

`CallSite.ValidAt` says, by recursion on a parameter type, which arguments a slot may give
for it: an integer within the bounds of its kind, the value of the variant that the slot
names, the object that the slot's handle was cast to.  The defaults that readings fall back
to when a slot has nothing to read are not among them.

On a coherent frame every argument that the reference returns for a fitting slot is valid
(`validAt_of_reference`), because a slot of a fitting kind does have something to read, and
nested types are only read where they fit.  A call therefore hands to its native function one
valid argument for each parameter, in order.
-/

namespace ScriptBridge

theorem NumberKind.low_le_high {kind : NumberKind} {low high : Int}
    (bounded : kind.integerBounds? = some (low, high)) : low ≤ high := by
  cases kind <;> simp [integerBounds?] at bounded <;> omega

namespace CallSite

variable (site : CallSite)

/-! ## Valid arguments -/

mutual

/-- The arguments that the slot at a position may give for a type. -/
def ValidAt : ParamType → Slots → Nat → Arg → Prop
  | .number kind, _, _, .integer value =>
      ∃ low high, kind.integerBounds? = some (low, high) ∧ low ≤ value ∧ value ≤ high
  | .number kind, _, _, .float number =>
      kind.integerBounds? = none ∧ number.isNaN = false
  | .string, slots, position, .string bytes => slots.stringAt position = some bytes
  | .boolean, slots, position, .boolean flag => slots.booleanAt position = flag
  | .enumeration id, slots, position, .enumeration value =>
      ∃ bytes name, slots.stringAt position = some bytes ∧ bytes.toString? = some name ∧
        site.registries.enums.parse? id name = some value
  | .optional _, _, _, .optional none => True
  | .optional inner, slots, position, .optional (some arg) =>
      ValidAt inner slots position arg
  | .sequence element, slots, position, .sequence items =>
      ∀ item ∈ items, ∃ entry ∈ slots.entriesAt position,
        ValidAt element (.ofValues [entry.2]) 1 item
  | .mapping key item, slots, position, .mapping pairs =>
      ∀ pair ∈ pairs,
        (∃ entry ∈ slots.entriesAt position,
          ValidAt key (.ofValues [entry.1, entry.2]) 1 pair.1) ∧
        ∃ entry ∈ slots.entriesAt position,
          ValidAt item (.ofValues [entry.1, entry.2]) 2 pair.2
  | .union alternatives, slots, position, .union index value =>
      ValidForAlternative alternatives index slots position value
  | .handle classId, slots, position, .handle (some object) =>
      ∃ reference, slots.handleAt position = some reference ∧
        site.registries.classes.downcast? reference.resolve classId = some object
  | .callback, slots, position, .callback (some reference) =>
      slots.functionAt position = some reference
  | .context, _, _, .context id => id = site.context
  | .placeholder, _, _, .placeholder => True
  | _, _, _, _ => False

/-- The arguments that the slot at a position may give for the alternative at an index;
none if there is no such alternative. -/
def ValidForAlternative : List ParamType → Nat → Slots → Nat → Arg → Prop
  | [], _, _, _, _ => False
  | type :: _, 0, slots, position, arg => ValidAt type slots position arg
  | _ :: rest, index + 1, slots, position, arg =>
      ValidForAlternative rest index slots position arg

end

/-- One argument for each type of a signature, in order, and each valid at its cursor.  A
parameter uses the slot at its cursor or leaves it to the next one. -/
inductive ValidFrom (slots : Slots) : Nat → List ParamType → List Arg → Prop where
  | nil {cursor : Nat} : ValidFrom slots cursor [] []
  | cons {cursor next : Nat} {type : ParamType} {types : List ParamType} {arg : Arg}
      {args : List Arg} (valid : site.ValidAt type slots cursor arg)
      (advanced : next = cursor ∨ next = cursor + 1)
      (rest : ValidFrom slots next types args) :
      ValidFrom slots cursor (type :: types) (arg :: args)

variable {site}

/-- A valid value of a union has the index of an alternative and is valid for it. -/
theorem validForAlternative_iff {alternatives : List ParamType} {index : Nat}
    {slots : Slots} {position : Nat} {arg : Arg} :
    site.ValidForAlternative alternatives index slots position arg ↔
      ∃ type, alternatives[index]? = some type ∧ site.ValidAt type slots position arg := by
  induction alternatives generalizing index with
  | nil => simp [ValidForAlternative]
  | cons type rest ih =>
      cases index with
      | zero => simp [ValidForAlternative]
      | succ index => simp [ValidForAlternative, ih]

/-! ## What a reference that returns has read -/

theorem referenceNumber_eq_ok {argument : Nat} {kind : NumberKind} {slots : Slots}
    {position : Nat} {arg : Arg}
    (returned : site.referenceNumber argument kind slots position = .ok arg) :
    ∃ number, slots.numberAt position = some number ∧ number.isNaN = false ∧
      numberArg kind number = arg := by
  simp only [referenceNumber] at returned
  cases read : slots.numberAt position with
  | none => simp [read, throw, throwThe, MonadExceptOf.throw] at returned
  | some number =>
      cases undefined : number.isNaN with
      | true => simp [read, undefined, throw, throwThe, MonadExceptOf.throw] at returned
      | false =>
          simp only [read, undefined, Bool.false_eq_true, if_false,
            Exception.pure_eq_ok_iff] at returned
          exact ⟨number, rfl, undefined, returned⟩

theorem referenceEnumeration_eq_ok {argument : Nat} {id : EnumId} {slots : Slots}
    {position : Nat} {arg : Arg}
    (returned : site.referenceEnumeration argument id slots position = .ok arg) :
    ∃ bytes name value, slots.stringAt position = some bytes ∧ bytes.toString? = some name ∧
      site.registries.enums.parse? id name = some value ∧ .enumeration value = arg := by
  simp only [referenceEnumeration] at returned
  split at returned
  · rename_i value parsed
    simp only [Option.bind_eq_some_iff] at parsed
    rcases parsed with ⟨bytes, read, name, spelled, parsed⟩
    exact ⟨bytes, name, value, read, spelled, parsed, Exception.pure_eq_ok_iff.mp returned⟩
  · simp [throw, throwThe, MonadExceptOf.throw] at returned

theorem referenceHandle_eq_ok {argument : Nat} {classId : ClassId} {slots : Slots}
    {position : Nat} {arg : Arg} {reference : HandleRef}
    (read : slots.handleAt position = some reference)
    (returned : site.referenceHandle argument classId slots position = .ok arg) :
    ∃ object, site.registries.classes.downcast? reference.resolve classId = some object ∧
      .handle (some object) = arg := by
  simp only [referenceHandle, read] at returned
  split at returned
  · rename_i object cast
    exact ⟨object, cast, Exception.pure_eq_ok_iff.mp returned⟩
  · simp [throw, throwThe, MonadExceptOf.throw] at returned

/-! ## The reference returns valid arguments -/

theorem validAt_numberArg {kind : NumberKind} {number : Number}
    (defined : number.isNaN = false) (slots : Slots) (position : Nat) :
    site.ValidAt (.number kind) slots position (numberArg kind number) := by
  cases bounded : kind.integerBounds? with
  | none =>
      simp only [numberArg, bounded, ValidAt, true_and]
      split
      · exact Number.isNaN_toSingle defined
      · exact defined
  | some bounds =>
      rcases bounds with ⟨low, high⟩
      simp only [numberArg, bounded, ValidAt]
      exact ⟨low, high, rfl,
        Number.saturate_mem_bounds (NumberKind.low_le_high bounded) defined⟩

theorem validAt_sequence_of_reference {element : ParamType} {argument : Nat}
    (delivers : ∀ slots position arg next, slots.Coherent →
      element.matchesAt slots (checkPosition element position) = true →
      site.reference argument element slots position = .ok (arg, next) →
      site.ValidAt element slots position arg)
    {slots : Slots} {position next : Nat} {arg : Arg}
    (returned : site.reference argument (.sequence element) slots position = .ok (arg, next)) :
    site.ValidAt (.sequence element) slots position arg := by
  simp only [reference, Exception.bind_eq_ok_iff, Exception.pure_eq_ok_iff,
    Prod.mk.injEq] at returned
  rcases returned with ⟨items, allReturned, rfl, rfl⟩
  intro item itemMem
  rcases Exception.exists_turn_of_mapM allReturned itemMem with ⟨entry, entryMem, turned⟩
  rcases Exception.map_eq_ok_iff.mp turned with ⟨⟨_, next⟩, entryReturned, rfl⟩
  rw [List.mem_filter] at entryMem
  refine ⟨entry, entryMem.1, ?_⟩
  exact delivers _ _ _ _ (Slots.coherent_ofValues _) (matchesAt_checkPosition
    (ParamType.matchesAt_of_coerciblyMatchesAt entryMem.2)) entryReturned

theorem validAt_mapping_of_reference {key item : ParamType} {argument : Nat}
    (deliversKey : ∀ slots position arg next, slots.Coherent →
      key.matchesAt slots (checkPosition key position) = true →
      site.reference argument key slots position = .ok (arg, next) →
      site.ValidAt key slots position arg)
    (deliversItem : ∀ slots position arg next, slots.Coherent →
      item.matchesAt slots (checkPosition item position) = true →
      site.reference argument item slots position = .ok (arg, next) →
      site.ValidAt item slots position arg)
    {slots : Slots} {position next : Nat} {arg : Arg}
    (returned : site.reference argument (.mapping key item) slots position = .ok (arg, next)) :
    site.ValidAt (.mapping key item) slots position arg := by
  simp only [reference, Exception.bind_eq_ok_iff, Exception.pure_eq_ok_iff,
    Prod.mk.injEq] at returned
  rcases returned with ⟨pairs, allWritten, rfl, rfl⟩
  refine Exception.foldlM_induction
    (motive := fun pairs => site.ValidAt (.mapping key item) slots position (.mapping pairs))
    allWritten (by simp [ValidAt]) ?_
  intro written valid entry entryMem next wrote
  simp only [Exception.bind_eq_ok_iff, Exception.map_eq_ok_iff,
    Exception.pure_eq_ok_iff] at wrote
  rcases wrote with ⟨_, ⟨⟨keyArg, keyNext⟩, keyReturned, rfl⟩, _,
    ⟨⟨itemArg, itemNext⟩, itemReturned, rfl⟩, rfl⟩
  simp only [List.mem_filter, Bool.and_eq_true] at entryMem
  rcases entryMem with ⟨entryMem, keyFits, itemFits⟩
  simp only [ValidAt] at valid ⊢
  intro pair pairMem
  rcases Arg.mem_writePair pairMem with ⟨keyFrom, valueFrom⟩
  constructor
  · rcases keyFrom with isNew | ⟨old, oldMem, isOld⟩
    · rw [isNew]
      exact ⟨entry, entryMem, deliversKey _ _ _ _ (Slots.coherent_ofValues _)
        (matchesAt_checkPosition (ParamType.matchesAt_of_coerciblyMatchesAt keyFits))
        keyReturned⟩
    · exact isOld ▸ (valid old oldMem).1
  · rcases valueFrom with isNew | ⟨old, oldMem, isOld⟩
    · rw [isNew]
      exact ⟨entry, entryMem, deliversItem _ _ _ _ (Slots.coherent_ofValues _)
        (matchesAt_checkPosition (ParamType.matchesAt_of_coerciblyMatchesAt itemFits))
        itemReturned⟩
    · exact isOld ▸ (valid old oldMem).2

/-- On a coherent frame, what the reference returns for a fitting slot is valid. -/
theorem validAt_of_reference {type : ParamType} {argument : Nat} {slots : Slots}
    {position next : Nat} {arg : Arg} (coherent : slots.Coherent)
    (fits : type.matchesAt slots (checkPosition type position) = true)
    (returned : site.reference argument type slots position = .ok (arg, next)) :
    site.ValidAt type slots position arg := by
  induction type generalizing slots position next arg with
  | number kind =>
      simp only [reference, Exception.bind_eq_ok_iff, Exception.pure_eq_ok_iff,
        Prod.mk.injEq] at returned
      rcases returned with ⟨_, read, rfl, rfl⟩
      rcases referenceNumber_eq_ok read with ⟨number, _, defined, rfl⟩
      exact validAt_numberArg defined slots position
  | string =>
      simp only [reference, Exception.pure_eq_ok_iff, Prod.mk.injEq] at returned
      rcases returned with ⟨rfl, rfl⟩
      rcases coherent.exists_string
        (by simpa [ParamType.matchesAt, ParamType.accepts, checkPosition] using fits)
        with ⟨bytes, read⟩
      simp [ValidAt, read]
  | boolean =>
      simp only [reference, Exception.pure_eq_ok_iff, Prod.mk.injEq] at returned
      rcases returned with ⟨rfl, rfl⟩
      simp [ValidAt]
  | enumeration id =>
      simp only [reference, Exception.bind_eq_ok_iff, Exception.pure_eq_ok_iff,
        Prod.mk.injEq] at returned
      rcases returned with ⟨_, read, rfl, rfl⟩
      rcases referenceEnumeration_eq_ok read with
        ⟨bytes, name, value, readBytes, spelled, parsed, rfl⟩
      exact ⟨bytes, name, readBytes, spelled, parsed⟩
  | optional inner ih =>
      simp only [reference] at returned
      split at returned
      · rename_i coercible
        simp only [Exception.bind_eq_ok_iff, Exception.pure_eq_ok_iff,
          Prod.mk.injEq] at returned
        rcases returned with ⟨⟨innerArg, last⟩, innerReturned, rfl, rfl⟩
        simp only [ValidAt]
        exact ih coherent (matchesAt_checkPosition
          (ParamType.matchesAt_of_coerciblyMatchesAt coercible)) innerReturned
      · simp only [Exception.pure_eq_ok_iff, Prod.mk.injEq] at returned
        rcases returned with ⟨rfl, rfl⟩
        simp [ValidAt]
  | sequence element ih =>
      exact validAt_sequence_of_reference (fun _ _ _ _ => ih) returned
  | mapping key item ihKey ihItem =>
      exact validAt_mapping_of_reference (fun _ _ _ _ => ihKey) (fun _ _ _ _ => ihItem) returned
  | union alternatives ih =>
      have fitsHere : (ParamType.union alternatives).matchesAt slots position = true := fits
      rcases ParamType.exists_firstFitting? fitsHere with ⟨entry, found⟩
      simp only [reference, referenceFirst_eq, found, Option.map_some, Option.getD_some,
        Exception.bind_eq_ok_iff, Exception.pure_eq_ok_iff, Prod.mk.injEq] at returned
      rcases returned with ⟨⟨value, last⟩, chosenReturned, rfl, rfl⟩
      simp only [ValidAt]
      refine validForAlternative_iff.mpr ⟨entry.1, ParamType.getElem?_of_firstFitting? found, ?_⟩
      exact ih entry.1 (ParamType.mem_of_firstFitting? found) coherent
        (matchesAt_checkPosition (ParamType.matchesAt_of_firstFitting? found)) chosenReturned
  | handle classId =>
      simp only [reference, Exception.bind_eq_ok_iff, Exception.pure_eq_ok_iff,
        Prod.mk.injEq] at returned
      rcases returned with ⟨_, cast, rfl, rfl⟩
      rcases coherent.exists_handle
        (by simpa [ParamType.matchesAt, ParamType.accepts, checkPosition] using fits)
        with ⟨reference, read⟩
      rcases referenceHandle_eq_ok read cast with ⟨object, isObject, rfl⟩
      exact ⟨reference, read, isObject⟩
  | callback =>
      simp only [reference, Exception.pure_eq_ok_iff, Prod.mk.injEq] at returned
      rcases returned with ⟨rfl, rfl⟩
      rcases coherent.exists_function
        (by simpa [ParamType.matchesAt, ParamType.accepts, checkPosition] using fits)
        with ⟨reference, read⟩
      simp [ValidAt, read]
  | context =>
      simp only [reference, Exception.pure_eq_ok_iff, Prod.mk.injEq] at returned
      rcases returned with ⟨rfl, rfl⟩
      simp [ValidAt]
  | placeholder =>
      simp only [reference, Exception.pure_eq_ok_iff, Prod.mk.injEq] at returned
      rcases returned with ⟨rfl, rfl⟩
      simp [ValidAt]

/-- What the reference reads uses the slot at the position or leaves it. -/
theorem cursor_of_reference {type : ParamType} {argument : Nat} {slots : Slots}
    {position next : Nat} {arg : Arg}
    (returned : site.reference argument type slots position = .ok (arg, next)) :
    next = position ∨ next = position + 1 := by
  induction type generalizing arg next with
  | optional inner ih =>
      simp only [reference] at returned
      split at returned
      · simp only [Exception.bind_eq_ok_iff, Exception.pure_eq_ok_iff,
          Prod.mk.injEq] at returned
        rcases returned with ⟨⟨innerArg, last⟩, innerReturned, _, rfl⟩
        exact ih innerReturned
      · simp only [Exception.pure_eq_ok_iff, Prod.mk.injEq] at returned
        exact Or.inl returned.2.symm
  | union alternatives ih =>
      simp only [reference, referenceFirst_eq] at returned
      cases found : ParamType.firstFitting? alternatives 0 slots position with
      | none =>
          simp only [found, Option.map_none, Option.getD_none, Exception.pure_eq_ok_iff,
            Prod.mk.injEq] at returned
          exact Or.inl returned.2.symm
      | some entry =>
          simp only [found, Option.map_some, Option.getD_some, Exception.bind_eq_ok_iff,
            Exception.pure_eq_ok_iff, Prod.mk.injEq] at returned
          rcases returned with ⟨⟨value, last⟩, chosenReturned, _, rfl⟩
          exact ih entry.1 (ParamType.mem_of_firstFitting? found) chosenReturned
  | _ =>
      simp only [reference, Exception.bind_eq_ok_iff, Exception.pure_eq_ok_iff,
        Prod.mk.injEq] at returned
      grind

theorem length_of_referenceParams {slots : Slots} {params : List ParamType}
    {cursor last : Nat} {args : List Arg}
    (returned : site.referenceParams slots params cursor = .ok (args, last)) :
    args.length = params.length := by
  induction params generalizing cursor args with
  | nil =>
      simp only [referenceParams, Exception.pure_eq_ok_iff, Prod.mk.injEq] at returned
      rw [← returned.1]
      rfl
  | cons type rest ih =>
      simp only [referenceParams, Exception.bind_eq_ok_iff, Exception.pure_eq_ok_iff,
        Prod.mk.injEq] at returned
      rcases returned with ⟨⟨arg, next⟩, _, ⟨restArgs, last⟩, restReturned, rfl, rfl⟩
      rw [List.length_cons, List.length_cons, ih restReturned]

theorem validFrom_of_referenceParams {slots : Slots} (coherent : slots.Coherent)
    {params : List ParamType} {cursor last : Nat} {args : List Arg}
    (returned : site.referenceParams slots params cursor = .ok (args, last)) :
    site.ValidFrom slots cursor params args := by
  induction params generalizing cursor args with
  | nil =>
      simp only [referenceParams, Exception.pure_eq_ok_iff, Prod.mk.injEq] at returned
      rw [← returned.1]
      exact .nil
  | cons type rest ih =>
      simp only [referenceParams, Exception.bind_eq_ok_iff, Exception.pure_eq_ok_iff,
        Prod.mk.injEq] at returned
      rcases returned with ⟨⟨arg, next⟩, argReturned, ⟨restArgs, last⟩, restReturned, rfl, rfl⟩
      simp only [referenceParam] at argReturned
      split at argReturned
      · rename_i fits
        exact .cons (validAt_of_reference coherent fits argReturned)
          (cursor_of_reference argReturned) (ih restReturned)
      · simp [throw, throwThe, MonadExceptOf.throw] at argReturned

end CallSite

namespace Binding

/-- Reading the arguments of a call has the outcome of the reference on its signature. -/
theorem arguments_eq (binding : Binding) (frame : Frame) :
    binding.arguments frame = (do
      let (values, _) ←
        (binding.callSite frame).referenceParams frame.slots binding.params 1
      pure (.ofList (binding.functionName frame) values)) := by
  have simulated := (binding.callSite frame).outcome_extractAll frame.slots binding.params 1
  simp only [arguments]
  rcases extracted : (binding.callSite frame).extractAll frame.slots binding.params 1 .clear
    with ⟨values, cursor, ⟨_ | error⟩⟩ <;>
  · rw [extracted] at simulated
    rw [← simulated]
    rfl

/-- The arguments of a call are what its parameters ask for. -/
structure ValidArguments (binding : Binding) (frame : Frame) (args : Args) : Prop where
  /-- The function is told by the name of the call. -/
  function : args.function = binding.functionName frame
  /-- No argument is taken yet. -/
  untaken : args.next = 0
  /-- There is one argument for each parameter, in order, and each is valid. -/
  values : (binding.callSite frame).ValidFrom frame.slots 1 binding.params args.values

/-- What a call leaves behind once it has come to a result or to a failure. -/
def answer (binding : Binding) (frame : Frame) (log : FailureLog) :
    Except ArgumentError Return → CallOutcome
  | .ok result => ⟨.ok result.toList.length, frame.push result.toList, log⟩
  | .error error =>
      match binding.policy with
      | .raise => ⟨.error error, frame, log⟩
      | .substituteAndLog fallback =>
          ⟨.ok 1, frame.push [fallback],
            binding.sink.receive (.ofError (binding.functionName frame) error) log⟩

theorem call_eq_answer (binding : Binding) (native : NativeM Return) (frame : Frame)
    (log : FailureLog) :
    ({ binding with native } : Binding).call frame log =
      binding.answer frame log (({ binding with native } : Binding).invoke frame) := by
  rw [call_eq]
  cases ({ binding with native } : Binding).invoke frame with
  | ok result => rfl
  | error error =>
      simp only [answer]
      cases binding.policy <;> rfl

theorem invoke_of_arguments_error {binding : Binding} {frame : Frame} {error : ArgumentError}
    (failed : binding.arguments frame = .error error) (native : NativeM Return) :
    ({ binding with native } : Binding).invoke frame = .error error := by
  have failedHere : ({ binding with native } : Binding).arguments frame = .error error := failed
  rw [invoke_eq, failedHere]

theorem invoke_of_arguments_ok {binding : Binding} {frame : Frame} {args : Args}
    (handed : binding.arguments frame = .ok args) (native : NativeM Return) :
    ({ binding with native } : Binding).invoke frame =
      (native args).1.mapError .rejected := by
  have handedHere : ({ binding with native } : Binding).arguments frame = .ok args := handed
  rw [invoke_eq, handedHere]

/-- A call on a frame of values either fails with an error that no native function has a part
in, or runs the native function on valid arguments and answers with what it comes to. -/
theorem native_runs_on_valid_arguments (binding : Binding) (function : String)
    (context : ContextId) (arguments returns : List Value) :
    let frame : Frame := ⟨function, context, .ofValues arguments, returns⟩
    (∃ error, ∀ (native : NativeM Return) (log : FailureLog),
      ({ binding with native } : Binding).call frame log =
        binding.answer frame log (.error error)) ∨
    ∃ args, binding.ValidArguments frame args ∧
      ∀ (native : NativeM Return) (log : FailureLog),
        ({ binding with native } : Binding).call frame log =
          binding.answer frame log ((native args).1.mapError .rejected) := by
  intro frame
  have read := binding.arguments_eq frame
  cases returned :
      (binding.callSite frame).referenceParams frame.slots binding.params 1 with
  | error error =>
      left
      rw [returned] at read
      refine ⟨error, ?_⟩
      intro native log
      rw [call_eq_answer, invoke_of_arguments_error read native]
  | ok result =>
      right
      rcases result with ⟨values, cursor⟩
      rw [returned] at read
      refine ⟨.ofList (binding.functionName frame) values, ⟨rfl, rfl, ?_⟩, ?_⟩
      · exact CallSite.validFrom_of_referenceParams (Slots.coherent_ofValues arguments) returned
      · intro native log
        rw [call_eq_answer, invoke_of_arguments_ok read native]

end Binding

end ScriptBridge
