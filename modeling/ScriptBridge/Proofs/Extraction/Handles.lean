import ScriptBridge.Proofs.Extraction.Soundness

/-!
# Handles that are filled

A parameter that asks for an object gets one, or its call fails, as long as the frame has a
handle to read wherever it reports one (`Slots.HandleReadableAt`).  Nothing else is asked of
the frame.  The class may stand at the top of a type or behind any chain of optional types and
unions, along which `ParamType.HandleIn` follows it into the argument.

The condition is exact.  A slot that is reported as a handle and has none to read gives an
empty handle, and no failure is recorded.
-/

namespace ScriptBridge

/-- A slot that is reported as a handle has one to read. -/
def Slots.HandleReadableAt (slots : Slots) (position : Nat) : Prop :=
  slots.kindAt position = .boxedHandle ∨ slots.kindAt position = .lightHandle →
    ∃ reference, slots.handleAt position = some reference

/-- An argument of a type comes down to a handle of a class: it is one itself, or what it holds
for an inner type or for an alternative comes down to one. -/
inductive ParamType.HandleIn (classId : ClassId) (object? : Option Handle) :
    ParamType → Arg → Prop where
  | handle : HandleIn classId object? (.handle classId) (.handle object?)
  | optional {inner : ParamType} {arg : Arg} (within : HandleIn classId object? inner arg) :
      HandleIn classId object? (.optional inner) (.optional (some arg))
  | union {alternatives : List ParamType} {index : Nat} {type : ParamType} {arg : Arg}
      (chosen : alternatives[index]? = some type) (within : HandleIn classId object? type arg) :
      HandleIn classId object? (.union alternatives) (.union index arg)

namespace CallSite

/-- Every handle that an argument comes down to is filled, with the object that the raw handle
in the slot was cast to. -/
def HandlesFilledAt (site : CallSite) (slots : Slots) (position : Nat) (type : ParamType)
    (arg : Arg) : Prop :=
  ∀ classId object?, type.HandleIn classId object? arg →
    ∃ reference object, slots.handleAt position = some reference ∧
      site.registries.classes.downcast? reference.resolve classId = some object ∧
      object? = some object

variable {site : CallSite} {slots : Slots} {position : Nat}

theorem handlesFilledAt_of_reference {type : ParamType} {argument next : Nat} {arg : Arg}
    (readable : slots.HandleReadableAt position)
    (fits : type.matchesAt slots (checkPosition type position) = true)
    (returned : site.reference argument type slots position = .ok (arg, next)) :
    site.HandlesFilledAt slots position type arg := by
  intro classId object? within
  induction within generalizing next with
  | handle =>
      simp only [reference, Exception.bind_eq_ok_iff, Exception.pure_eq_ok_iff,
        Prod.mk.injEq] at returned
      rcases returned with ⟨_, cast, rfl, rfl⟩
      have isHandle :
          slots.kindAt position = .boxedHandle ∨ slots.kindAt position = .lightHandle := by
        simpa [ParamType.matchesAt, ParamType.accepts, checkPosition] using fits
      rcases readable isHandle with ⟨reference, read⟩
      rcases referenceHandle_eq_ok read cast with ⟨object, isObject, filled⟩
      exact ⟨reference, object, read, isObject, (Arg.handle.inj filled).symm⟩
  | optional within ih =>
      simp only [reference] at returned
      split at returned
      · rename_i coercible
        simp only [Exception.bind_eq_ok_iff, Exception.pure_eq_ok_iff, Prod.mk.injEq,
          Arg.optional.injEq, Option.some.injEq] at returned
        rcases returned with ⟨⟨innerArg, last⟩, innerReturned, rfl, rfl⟩
        apply ih _ innerReturned
        exact matchesAt_checkPosition (ParamType.matchesAt_of_coerciblyMatchesAt coercible)
      · simp [Exception.pure_eq_ok_iff] at returned
  | @union alternatives index type arg chosen within ih =>
      have fitsHere : (ParamType.union alternatives).matchesAt slots position = true := fits
      rcases ParamType.exists_firstFitting? fitsHere with ⟨entry, found⟩
      simp only [reference, referenceFirst_eq, found, Option.map_some, Option.getD_some,
        Exception.bind_eq_ok_iff, Exception.pure_eq_ok_iff, Prod.mk.injEq,
        Arg.union.injEq] at returned
      rcases returned with ⟨⟨value, last⟩, chosenReturned, ⟨rfl, rfl⟩, rfl⟩
      have isChosen : entry.1 = type := by
        rw [ParamType.getElem?_of_firstFitting? found] at chosen
        exact Option.some.inj chosen
      subst isChosen
      apply ih _ chosenReturned
      exact matchesAt_checkPosition (ParamType.matchesAt_of_firstFitting? found)

theorem handlesFilledAt_of_referenceParam {type : ParamType} {next : Nat} {arg : Arg}
    (readable : slots.HandleReadableAt position)
    (returned : site.referenceParam type slots position = .ok (arg, next)) :
    site.HandlesFilledAt slots position type arg := by
  simp only [referenceParam] at returned
  split at returned
  · rename_i fits
    exact handlesFilledAt_of_reference readable fits returned
  · simp [throw, throwThe, MonadExceptOf.throw] at returned

theorem handlesFilledAt_of_referenceParams
    (readable : ∀ position, slots.HandleReadableAt position) {params : List ParamType}
    {cursor last : Nat} {args : List Arg}
    (returned : site.referenceParams slots params cursor = .ok (args, last)) :
    List.Forall₂ (fun type arg => ∃ position, site.HandlesFilledAt slots position type arg)
      params args := by
  induction params generalizing cursor args with
  | nil =>
      simp only [referenceParams, Exception.pure_eq_ok_iff, Prod.mk.injEq] at returned
      rw [← returned.1]
      exact .nil
  | cons type rest ih =>
      simp only [referenceParams, Exception.bind_eq_ok_iff, Exception.pure_eq_ok_iff,
        Prod.mk.injEq] at returned
      rcases returned with ⟨⟨arg, next⟩, argReturned, ⟨restArgs, last⟩, restReturned, rfl, rfl⟩
      refine .cons ⟨cursor, ?_⟩ (ih restReturned)
      exact handlesFilledAt_of_referenceParam (readable cursor) argReturned

/-- Extracting a type from a slot that has a handle to read if it is reported as one leaves a
failure or fills every handle that the argument comes down to. -/
theorem handlesFilledAt_extract (readable : slots.HandleReadableAt position)
    (type : ParamType) (state : FailureState) :
    (site.extract type slots position state).state.isSet = true ∨
      site.HandlesFilledAt slots position type (site.extract type slots position state).arg := by
  by_cases alreadySet : state.isSet = true
  · left
    simp [extract, alreadySet]
  · rw [FailureState.eq_clear_of_not_isSet alreadySet]
    have simulated := site.outcome_extract type slots position
    rcases extracted : site.extract type slots position .clear with ⟨arg, next, ⟨_ | error⟩⟩
    · right
      rw [extracted] at simulated
      exact handlesFilledAt_of_referenceParam readable simulated.symm
    · left
      rfl

/-- A slot that is reported as a handle and has none to read leaves a required handle empty, and
no failure is recorded. -/
theorem extract_handle_of_unreadable (unreadable : ¬slots.HandleReadableAt position)
    (classId : ClassId) :
    site.extract (.handle classId) slots position .clear =
      ⟨.handle none, position + 1, .clear⟩ := by
  simp only [Slots.HandleReadableAt, Classical.not_imp, not_exists] at unreadable
  rcases unreadable with ⟨isHandle, unread⟩
  have nothing : slots.handleAt position = none := Option.eq_none_iff_forall_ne_some.mpr unread
  have fits : (ParamType.handle classId).matchesAt slots
      (checkPosition (.handle classId) position) = true := by
    simpa [ParamType.matchesAt, ParamType.accepts, checkPosition] using isHandle
  simp [extract, FailureState.isSet_clear, fits, read, readHandle, nothing]

end CallSite

namespace Binding

/-- A call answers with a failure, whatever the native function is, or it runs the function on
one argument for each parameter, whose handles are all filled. -/
def RunsOnFilledHandles (binding : Binding) (frame : Frame) : Prop :=
  (∃ error, ∀ (native : NativeM Return) (log : FailureLog),
    ({ binding with native } : Binding).call frame log =
      binding.answer frame log (.error error)) ∨
  ∃ args,
    List.Forall₂ (fun type arg => ∃ position,
      (binding.callSite frame).HandlesFilledAt frame.slots position type arg)
      binding.params args.values ∧
    ∀ (native : NativeM Return) (log : FailureLog),
      ({ binding with native } : Binding).call frame log =
        binding.answer frame log ((native args).1.mapError .rejected)

/-- A slot is read without fault exactly if it has a handle to read whenever it is reported as
one: then extracting any type leaves a failure or fills every handle that the argument comes down
to.  Over a frame whose slots are all of this kind native functions run only on arguments whose
handles are filled. -/
theorem native_runs_on_filled_handles (frame : Frame) :
    (∀ (site : CallSite) (position : Nat),
      frame.slots.HandleReadableAt position ↔
        ∀ (type : ParamType) (state : FailureState),
          (site.extract type frame.slots position state).state.isSet = true ∨
            site.HandlesFilledAt frame.slots position type
              (site.extract type frame.slots position state).arg) ∧
    ((∀ position, frame.slots.HandleReadableAt position) →
      ∀ binding : Binding, binding.RunsOnFilledHandles frame) := by
  constructor
  · intro site position
    constructor
    · intro readable type state
      exact CallSite.handlesFilledAt_extract readable type state
    · intro filled
      by_contra unreadable
      have empty := site.extract_handle_of_unreadable unreadable ⟨""⟩
      rcases filled (.handle ⟨""⟩) .clear with failed | holds
      · rw [empty, FailureState.isSet_clear] at failed
        cases failed
      · rw [empty] at holds
        rcases holds _ _ .handle with ⟨_, _, _, _, impossible⟩
        cases impossible
  · intro readable binding
    have read := binding.arguments_eq frame
    cases returned :
        (binding.callSite frame).referenceParams frame.slots binding.params 1 with
    | error error =>
        left
        rw [returned] at read
        refine ⟨error, ?_⟩
        intro native log
        rw [call_eq_answer, invoke_of_arguments_error read native]
    | ok result =>
        right
        rcases result with ⟨values, cursor⟩
        rw [returned] at read
        refine ⟨.ofList (binding.functionName frame) values, ?_, ?_⟩
        · exact CallSite.handlesFilledAt_of_referenceParams readable returned
        · intro native log
          rw [call_eq_answer, invoke_of_arguments_ok read native]

/-- A frame that reports a light handle and has a boxed one to read, and one that reports a
handle and has none. -/
theorem native_runs_on_filled_handles_garage :
    let garage : ClassTable :=
      (ClassTable.empty.declare ⟨"vehicle"⟩ "vehicle" none).register ⟨9⟩ ⟨"vehicle"⟩
    let driven : ParamType := .optional (.union [.boolean, .handle ⟨"vehicle"⟩])
    let binding : Binding :=
      ⟨"getSpeed", [driven], .raise, .memory, .ofTables garage .empty, pure .none,
        by simp [driven, ParamType.hasEmptyUnion, ParamType.anyHasEmptyUnion]⟩
    let reports (handle : Option HandleRef) : Slots :=
      .ofSlots [⟨.lightHandle, none, none, false, [], handle, none⟩]
    let frame : Frame := ⟨"", ⟨0⟩, reports (some (.boxed ⟨9⟩)), []⟩
    let site := binding.callSite frame
    let filled : Arg := .optional (some (.union 1 (.handle (some ⟨9⟩))))
    (∀ position, frame.slots.HandleReadableAt position) ∧
      site.extract driven frame.slots 1 .clear = ⟨filled, 2, .clear⟩ ∧
      site.HandlesFilledAt frame.slots 1 driven filled ∧
      binding.RunsOnFilledHandles frame ∧
      ¬∀ (type : ParamType) (state : FailureState),
        (site.extract type (reports none) 1 state).state.isSet = true ∨
          site.HandlesFilledAt (reports none) 1 type
            (site.extract type (reports none) 1 state).arg := by
  intro garage driven binding reports frame site filled
  have readable : ∀ position, frame.slots.HandleReadableAt position := by
    intro position isHandle
    rcases position with _ | _ | position
    · rcases isHandle with boxed | light
      · cases boxed
      · cases light
    · exact ⟨.boxed ⟨9⟩, rfl⟩
    · rcases isHandle with boxed | light
      · cases boxed
      · cases light
  have unreadable : ¬(reports none).HandleReadableAt 1 := by
    intro readableToo
    rcases readableToo (Or.inr rfl) with ⟨reference, impossible⟩
    cases impossible
  have extracted : site.extract driven frame.slots 1 .clear = ⟨filled, 2, .clear⟩ := rfl
  have atFrame := native_runs_on_filled_handles frame
  have atReport := native_runs_on_filled_handles ⟨"", ⟨0⟩, reports none, []⟩
  refine ⟨readable, extracted, ?_, atFrame.2 readable binding, ?_⟩
  · rcases (atFrame.1 site 1).mp (readable 1) driven .clear with failed | holds
    · rw [extracted] at failed
      cases failed
    · rw [extracted] at holds
      exact holds
  · intro filled
    exact unreadable ((atReport.1 site 1).mpr filled)

/-- A frame that reports a boxed handle and has none to read.  The handle is left empty at the
top of a type and within one, and a native function is handed it. -/
theorem native_handed_empty_handle :
    let speed : ParamType := .handle ⟨"vehicle"⟩
    let driven : ParamType := .optional (.union [.boolean, speed])
    let slots : Slots := .ofSlots [⟨.boxedHandle, none, none, false, [], none, none⟩]
    let site : CallSite := ⟨"getSpeed", ⟨0⟩, default⟩
    let binding : Binding :=
      ⟨"getSpeed", [speed], .raise, .memory, default, pure .none,
        by simp [speed, ParamType.hasEmptyUnion]⟩
    site.extract speed slots 1 .clear = ⟨.handle none, 2, .clear⟩ ∧
      site.extract driven slots 1 .clear = ⟨.optional (some (.union 1 (.handle none))), 2, .clear⟩ ∧
      ¬site.HandlesFilledAt slots 1 speed (.handle none) ∧
      binding.arguments ⟨"", ⟨0⟩, slots, []⟩ = .ok (.ofList "getSpeed" [.handle none]) := by
  intro speed driven slots site binding
  refine ⟨rfl, rfl, ?_, rfl⟩
  intro filled
  rcases filled ⟨"vehicle"⟩ none .handle with ⟨_, _, _, _, impossible⟩
  cases impossible

end Binding

end ScriptBridge
