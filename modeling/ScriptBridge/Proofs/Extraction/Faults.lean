import ScriptBridge.Proofs.Exception
import ScriptBridge.Proofs.Extraction.Reference

/-!
# The failure that is recorded, and what follows it

`CallSite.faults` lists everything that is wrong with a slot for a type, in reading order: the
entries of a table in the order in which the table enumerates them, and of an entry the key
before the value.  It knows of no state and stops nowhere.  A reading that begins without a
failure records the first of these faults, and none if there are none (`first_read`).  This is
shown of the reference, whose loops throw the first error of all their turns.

Once a failure is recorded, every further extraction gives the default of its type and leaves
the cursor and the failure as they are, whatever frame it is given.
-/

namespace ScriptBridge

namespace CallSite

variable (site : CallSite)

mutual

/-- All faults of a slot for a type, in reading order.  Entries of a table that do not fit
coercibly are passed over and have none. -/
def faults (argument : Nat) : ParamType → Slots → Nat → List ArgumentError
  | .number kind, slots, position =>
      (Exception.thrown? (site.referenceNumber argument kind slots position)).toList
  | .enumeration id, slots, position =>
      (Exception.thrown? (site.referenceEnumeration argument id slots position)).toList
  | .handle classId, slots, position =>
      (Exception.thrown? (site.referenceHandle argument classId slots position)).toList
  | .optional inner, slots, position =>
      if inner.coerciblyMatchesAt slots position then faults argument inner slots position
      else []
  | .sequence element, slots, position =>
      let fitting := (slots.entriesAt position).filter fun entry =>
        element.coerciblyMatchesAt (.ofValues [entry.2]) 1
      fitting.flatMap fun entry => faults argument element (.ofValues [entry.2]) 1
  | .mapping key item, slots, position =>
      let fitting := (slots.entriesAt position).filter fun entry =>
        key.coerciblyMatchesAt (.ofValues [entry.1, entry.2]) 1
          && item.coerciblyMatchesAt (.ofValues [entry.1, entry.2]) 2
      fitting.flatMap fun entry =>
        faults argument key (.ofValues [entry.1, entry.2]) 1
          ++ faults argument item (.ofValues [entry.1, entry.2]) 2
  | .union alternatives, slots, position =>
      faultsOfFirst argument alternatives slots position
  | .string, _, _ => []
  | .boolean, _, _ => []
  | .callback, _, _ => []
  | .context, _, _ => []
  | .placeholder, _, _ => []

/-- All faults of a slot for the first alternative that it fits. -/
def faultsOfFirst (argument : Nat) : List ParamType → Slots → Nat → List ArgumentError
  | [], _, _ => []
  | type :: rest, slots, position =>
      if type.matchesAt slots position then faults argument type slots position
      else faultsOfFirst argument rest slots position

end

/-- All faults of a frame for a parameter at the cursor.  A slot that does not fit the type has
this one fault, and its contents are not looked into. -/
def paramFaults (type : ParamType) (slots : Slots) (cursor : Nat) : List ArgumentError :=
  if type.matchesAt slots (checkPosition type cursor) then
    site.faults cursor type slots cursor
  else
    [.badArgument .structuralMismatch site.function (type.displayName site.registries) cursor
      (slots.describe site.registries cursor)]

theorem faultsOfFirst_eq (argument : Nat) (alternatives : List ParamType) (index : Nat)
    (slots : Slots) (position : Nat) :
    site.faultsOfFirst argument alternatives slots position =
      match ParamType.firstFitting? alternatives index slots position with
      | some entry => site.faults argument entry.1 slots position
      | none => [] := by
  induction alternatives generalizing index with
  | nil => rfl
  | cons type rest ih =>
      simp only [faultsOfFirst, ParamType.firstFitting?_cons, ih (index + 1)]
      split <;> rfl

/-! ## The first fault is the one that is reported -/

variable {site}

theorem thrown?_reference_mapping {argument : Nat} {key item : ParamType}
    (throwsKey : ∀ slots position,
      Exception.thrown? (site.reference argument key slots position) =
        (site.faults argument key slots position).head?)
    (throwsItem : ∀ slots position,
      Exception.thrown? (site.reference argument item slots position) =
        (site.faults argument item slots position).head?)
    (slots : Slots) (position : Nat) :
    Exception.thrown? (site.reference argument (.mapping key item) slots position) =
      (site.faults argument (.mapping key item) slots position).head? := by
  simp only [reference, faults]
  rw [Exception.thrown?_bind_of_pure _ fun _ => rfl]
  apply Exception.thrown?_foldlM
  intro pairs entry
  rw [List.head?_append, ← throwsKey, ← throwsItem]
  cases site.reference argument key (.ofValues [entry.1, entry.2]) 1 with
  | error error => rfl
  | ok keyRead =>
      change Exception.thrown? (do
        let itemArg ← Prod.fst <$> site.reference argument item (.ofValues [entry.1, entry.2]) 2
        pure (Arg.writePair keyRead.1 itemArg pairs)) = _
      rw [Exception.thrown?_bind_of_pure _ fun _ => rfl, Exception.thrown?_map]
      rfl

/-- The reference throws the first fault, and returns if there is none. -/
theorem thrown?_reference (type : ParamType) (argument : Nat) (slots : Slots)
    (position : Nat) :
    Exception.thrown? (site.reference argument type slots position) =
      (site.faults argument type slots position).head? := by
  induction type generalizing slots position with
  | number kind =>
      simp only [reference, faults, Option.head?_toList]
      exact Exception.thrown?_bind_of_pure _ fun _ => rfl
  | string => rfl
  | boolean => rfl
  | enumeration id =>
      simp only [reference, faults, Option.head?_toList]
      exact Exception.thrown?_bind_of_pure _ fun _ => rfl
  | optional inner ih =>
      simp only [reference, faults]
      split
      · rw [Exception.thrown?_bind_of_pure _ fun _ => rfl]
        exact ih slots position
      · rfl
  | sequence element ih =>
      simp only [reference, faults]
      rw [Exception.thrown?_bind_of_pure _ fun _ => rfl]
      apply Exception.thrown?_mapM
      intro entry
      rw [Exception.thrown?_map]
      exact ih _ _
  | mapping key item ihKey ihItem => exact thrown?_reference_mapping ihKey ihItem slots position
  | union alternatives ih =>
      simp only [reference, faults, referenceFirst_eq, faultsOfFirst_eq site argument _ 0]
      cases found : ParamType.firstFitting? alternatives 0 slots position with
      | none => rfl
      | some entry =>
          simp only [Option.map_some, Option.getD_some]
          rw [Exception.thrown?_bind_of_pure _ fun _ => rfl]
          exact ih entry.1 (ParamType.mem_of_firstFitting? found) slots position
  | handle classId =>
      simp only [reference, faults, Option.head?_toList]
      exact Exception.thrown?_bind_of_pure _ fun _ => rfl
  | callback => rfl
  | context => rfl
  | placeholder => rfl

theorem thrown?_outcome (reading : Reading) :
    Exception.thrown? reading.outcome = reading.state.first := by
  rcases reading with ⟨arg, cursor, ⟨_ | error⟩⟩ <;> rfl

/-- Extracting a parameter without a failure before it records the first fault. -/
theorem first_extract (type : ParamType) (slots : Slots) (cursor : Nat) :
    (site.extract type slots cursor .clear).state.first =
      (site.paramFaults type slots cursor).head? := by
  rw [← thrown?_outcome, outcome_extract, referenceParam, paramFaults]
  split
  · exact thrown?_reference type cursor slots cursor
  · rfl

/-! ## Every fault names the position of its parameter -/

theorem argument?_of_referenceNumber {argument : Nat} {kind : NumberKind} {slots : Slots}
    {position : Nat} {error : ArgumentError}
    (thrown : site.referenceNumber argument kind slots position = .error error) :
    error.argument? = some argument := by
  simp only [referenceNumber] at thrown
  split at thrown
  · split at thrown
    · cases thrown
      rfl
    · cases thrown
  · cases thrown
    rfl

theorem argument?_of_referenceEnumeration {argument : Nat} {id : EnumId} {slots : Slots}
    {position : Nat} {error : ArgumentError}
    (thrown : site.referenceEnumeration argument id slots position = .error error) :
    error.argument? = some argument := by
  simp only [referenceEnumeration] at thrown
  split at thrown
  · cases thrown
  · cases thrown
    rfl

theorem argument?_of_referenceHandle {argument : Nat} {classId : ClassId} {slots : Slots}
    {position : Nat} {error : ArgumentError}
    (thrown : site.referenceHandle argument classId slots position = .error error) :
    error.argument? = some argument := by
  simp only [referenceHandle] at thrown
  split at thrown
  · cases thrown
  · split at thrown
    · cases thrown
    · cases thrown
      rfl

/-- Faults of nested entries name the position of the parameter that they belong to. -/
theorem argument?_of_mem_faults {type : ParamType} {argument : Nat} {slots : Slots}
    {position : Nat} {fault : ArgumentError}
    (member : fault ∈ site.faults argument type slots position) :
    fault.argument? = some argument := by
  induction type generalizing slots position with
  | number kind =>
      simp only [faults, Option.mem_toList] at member
      exact argument?_of_referenceNumber (Exception.eq_error_of_thrown? member)
  | enumeration id =>
      simp only [faults, Option.mem_toList] at member
      exact argument?_of_referenceEnumeration (Exception.eq_error_of_thrown? member)
  | handle classId =>
      simp only [faults, Option.mem_toList] at member
      exact argument?_of_referenceHandle (Exception.eq_error_of_thrown? member)
  | optional inner ih =>
      simp only [faults] at member
      split at member
      · exact ih member
      · simp at member
  | sequence element ih =>
      simp only [faults, List.mem_flatMap] at member
      rcases member with ⟨entry, _, entryFault⟩
      exact ih entryFault
  | mapping key item ihKey ihItem =>
      simp only [faults, List.mem_flatMap, List.mem_append] at member
      rcases member with ⟨entry, _, keyFault | itemFault⟩
      · exact ihKey keyFault
      · exact ihItem itemFault
  | union alternatives ih =>
      simp only [faults, faultsOfFirst_eq site argument alternatives 0] at member
      split at member
      · rename_i entry found
        exact ih entry.1 (ParamType.mem_of_firstFitting? found) member
      · simp at member
  | _ => simp [faults] at member

/-- The failure that extracting a parameter records names the cursor. -/
theorem argument?_of_extract {type : ParamType} {slots : Slots} {cursor : Nat}
    {error : ArgumentError}
    (recorded : (site.extract type slots cursor .clear).state.first = some error) :
    error.argument? = some cursor := by
  rw [first_extract] at recorded
  have member := List.mem_of_head? recorded
  simp only [paramFaults] at member
  split at member
  · exact argument?_of_mem_faults member
  · rw [List.mem_singleton] at member
    rw [member]
    rfl

/-! ## Extractions after a failure -/

variable (site)

/-- Extracts types one after the other, each from a frame of its own.  No failure ends it. -/
def extractEach : List (ParamType × Slots) → Nat → FailureState → List Reading
  | [], _, _ => []
  | (type, slots) :: rest, cursor, state =>
      let reading := site.extract type slots cursor state
      reading :: extractEach rest reading.cursor reading.state

theorem extract_of_isSet {state : FailureState} (alreadySet : state.isSet = true)
    (type : ParamType) (slots : Slots) (cursor : Nat) :
    site.extract type slots cursor state = ⟨Arg.default type, cursor, state⟩ := by
  simp [extract, alreadySet]

theorem extractEach_of_isSet {state : FailureState} (alreadySet : state.isSet = true)
    (steps : List (ParamType × Slots)) (cursor : Nat) :
    site.extractEach steps cursor state =
      steps.map fun step => ⟨Arg.default step.1, cursor, state⟩ := by
  induction steps with
  | nil => rfl
  | cons step rest ih =>
      rw [extractEach, extract_of_isSet site alreadySet, List.map_cons, ih]

/-- The first extraction that records a failure records the first fault of its parameter.  All
extractions after it give the defaults of their types, and keep the cursor and the failure that
it left, so that none of them depends on a frame. -/
theorem failure_sticks (steps : List (ParamType × Slots)) (start place : Nat)
    (failed : (site.extractEach steps start .clear).findIdx? (fun reading =>
      reading.state.isSet) = some place) :
    ∃ type slots cursor error,
      steps[place]? = some (type, slots) ∧
      (start :: (site.extractEach steps start .clear).map Reading.cursor)[place]? =
        some cursor ∧
      (site.extractEach steps start .clear)[place]? =
        some (site.extract type slots cursor .clear) ∧
      (site.extract type slots cursor .clear).state.first = some error ∧
      (site.paramFaults type slots cursor).head? = some error ∧
      (site.extractEach steps start .clear).drop (place + 1) =
        (steps.drop (place + 1)).map fun step =>
          ⟨Arg.default step.1, (site.extract type slots cursor .clear).cursor, ⟨some error⟩⟩ := by
  induction steps generalizing start place with
  | nil => simp [extractEach] at failed
  | cons step rest ih =>
      rcases step with ⟨type, slots⟩
      simp only [extractEach, List.findIdx?_cons] at failed ⊢
      split at failed
      · rename_i alreadySet
        have isFirst : 0 = place := by simpa using failed
        subst isFirst
        rcases Option.isSome_iff_exists.mp alreadySet with ⟨error, recorded⟩
        have faulty := recorded
        rw [first_extract] at faulty
        refine ⟨type, slots, start, error, rfl, rfl, rfl, recorded, faulty, ?_⟩
        rw [← recorded]
        exact extractEach_of_isSet site alreadySet rest _
      · rename_i notSet
        rcases Option.map_eq_some_iff.mp failed with ⟨later, failedLater, rfl⟩
        rw [FailureState.eq_clear_of_not_isSet notSet] at failedLater ⊢
        exact ih _ later failedLater

/-- A table whose one entry has a faulty key and a faulty value, between two flags. -/
theorem failure_sticks_forecast :
    let site : CallSite := ⟨"setForecast", ⟨0⟩, default⟩
    let forecast : ParamType := .mapping (.enumeration ⟨"day"⟩) (.enumeration ⟨"weather"⟩)
    let table : Value := .table [(.string (.ofString "today"), .string (.ofString "rain"))]
    let steps : List (ParamType × Slots) :=
      [(.boolean, .ofValues [.boolean true]), (forecast, .ofValues [.nil, table]),
        (.optional .boolean, .ofValues [.nil, .nil, .boolean true])]
    let fault : String → ArgumentError :=
      .badArgument .valueRejected "setForecast" "enum" 2
    (site.extractEach steps 1 .clear).findIdx? (fun reading => reading.state.isSet) = some 1 ∧
      site.paramFaults forecast (.ofValues [.nil, table]) 2 =
        [fault "string (\"today\")", fault "string (\"rain\")"] ∧
      (site.extractEach steps 1 .clear).drop 2 =
        [⟨.optional none, 3, ⟨some (fault "string (\"today\")")⟩⟩] := by
  intro site forecast table steps fault
  have failed : (site.extractEach steps 1 .clear).findIdx? (fun reading =>
      reading.state.isSet) = some 1 := rfl
  rcases failure_sticks site steps 1 1 failed with
    ⟨type, slots, cursor, recorded, found, reached, _, first, _, after⟩
  cases found
  cases reached
  cases first
  exact ⟨failed, rfl, after⟩

end CallSite

end ScriptBridge
