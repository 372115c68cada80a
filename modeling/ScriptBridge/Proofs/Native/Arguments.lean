import ScriptBridge.Proofs.Extraction.Soundness
import ScriptBridge.Proofs.Native.Conversion

/-!
# Declared parameters always convert

A native function takes its arguments as values of native types, and a host declares its
parameters by the parameter types of these.  Declaring, extracting and converting are three
families of rules over the same types.  They agree: an argument that is valid for the
parameter type of a native type converts into a value of it, and so a function that takes its
arguments as they are declared is never rejected.
-/

namespace ScriptBridge

theorem convertItems_isOk {Result : Type} {convert : Arg → Except ConversionError Result}
    {items : List Arg} (each : ∀ item ∈ items, ∃ result, convert item = .ok result)
    (index : Nat) : ∃ results, convertItems convert index items = .ok results := by
  induction items generalizing index with
  | nil => exact ⟨[], rfl⟩
  | cons item rest ih =>
      rcases each item (by simp) with ⟨result, converted⟩
      rcases ih (fun later laterMem => each later (by simp [laterMem])) (index + 1) with
        ⟨results, restConverted⟩
      exact ⟨result :: results, by simp [convertItems, converted, restConverted, Except.map]⟩

theorem convertPairs_isOk {key item : NativeType}
    {convertKey : Arg → Except ConversionError key.Carrier}
    {convertItem : Arg → Except ConversionError item.Carrier} {pairs : List (Arg × Arg)}
    (eachKey : ∀ pair ∈ pairs, ∃ value, convertKey pair.1 = .ok value)
    (eachItem : ∀ pair ∈ pairs, ∃ value, convertItem pair.2 = .ok value)
    (done : List (key.Carrier × item.Carrier)) :
    ∃ results, convertPairs convertKey convertItem pairs done = .ok results := by
  induction pairs generalizing done with
  | nil => exact ⟨done, rfl⟩
  | cons pair rest ih =>
      rcases pair with ⟨keyArg, itemArg⟩
      rcases eachKey (keyArg, itemArg) (by simp) with ⟨newKey, keyConverted⟩
      rcases eachItem (keyArg, itemArg) (by simp) with ⟨newItem, itemConverted⟩
      simp only [convertPairs, keyConverted, itemConverted]
      apply ih
      · intro later laterMem
        exact eachKey later (by simp [laterMem])
      · intro later laterMem
        exact eachItem later (by simp [laterMem])

/-- What is valid for the parameter type of a native type converts into a value of it. -/
theorem NativeType.ofArg_isOk_of_validAt {site : CallSite} {type : NativeType}
    {param : ParamType} (declared : type.paramType? = some param) {slots : Slots}
    {position : Nat} {arg : Arg} (valid : site.ValidAt param slots position arg) :
    ∃ value, type.ofArg arg = .ok value := by
  induction type generalizing param slots position arg with
  | integer width =>
      rcases Option.map_eq_some_iff.mp declared with ⟨kind, isKind, rfl⟩
      have bounded := IntegerWidth.integerBounds_of_numberKind isKind
      cases arg with
      | integer value =>
          simp only [CallSite.ValidAt, bounded, Option.some.injEq, Prod.mk.injEq] at valid
          rcases valid with ⟨low, high, ⟨rfl, rfl⟩, fits⟩
          exact ⟨⟨value, fits⟩, IntegerWidth.ofInt_of_mem fits⟩
      | float number => simp [CallSite.ValidAt, bounded] at valid
      | _ => simp [CallSite.ValidAt] at valid
  | single =>
      rw [← Option.some.inj declared] at valid
      cases arg with
      | float number => exact ⟨number.toSingle, rfl⟩
      | _ => simp [CallSite.ValidAt, NumberKind.integerBounds?] at valid
  | double =>
      rw [← Option.some.inj declared] at valid
      cases arg with
      | float number => exact ⟨number, rfl⟩
      | _ => simp [CallSite.ValidAt, NumberKind.integerBounds?] at valid
  | text =>
      rw [← Option.some.inj declared] at valid
      cases arg with
      | string bytes => exact ⟨bytes.toStringLossy, rfl⟩
      | _ => simp [CallSite.ValidAt] at valid
  | bytes =>
      rw [← Option.some.inj declared] at valid
      cases arg with
      | string bytes => exact ⟨bytes, rfl⟩
      | _ => simp [CallSite.ValidAt] at valid
  | boolean =>
      rw [← Option.some.inj declared] at valid
      cases arg with
      | boolean flag => exact ⟨flag, rfl⟩
      | _ => simp [CallSite.ValidAt] at valid
  | handle => simp [paramType?] at declared
  | function =>
      rw [← Option.some.inj declared] at valid
      cases arg with
      | callback reference =>
          cases reference with
          | none => simp [CallSite.ValidAt] at valid
          | some reference => exact ⟨reference, rfl⟩
      | _ => simp [CallSite.ValidAt] at valid
  | context =>
      rw [← Option.some.inj declared] at valid
      cases arg with
      | context id => exact ⟨id, rfl⟩
      | _ => simp [CallSite.ValidAt] at valid
  | placeholder =>
      rw [← Option.some.inj declared] at valid
      cases arg with
      | placeholder => exact ⟨(), rfl⟩
      | _ => simp [CallSite.ValidAt] at valid
  | argument => simp [paramType?] at declared
  | option inner ih =>
      rcases Option.map_eq_some_iff.mp declared with ⟨innerParam, innerDeclared, rfl⟩
      cases arg with
      | optional given =>
          cases given with
          | none => exact ⟨none, rfl⟩
          | some arg =>
              rcases ih innerDeclared (by simpa [CallSite.ValidAt] using valid) with
                ⟨value, converted⟩
              exact ⟨some value, by rw [ofArg_option_some, converted]; rfl⟩
      | _ => simp [CallSite.ValidAt] at valid
  | list element ih =>
      rcases Option.map_eq_some_iff.mp declared with ⟨elementParam, elementDeclared, rfl⟩
      cases arg with
      | sequence items =>
          simp only [CallSite.ValidAt] at valid
          refine convertItems_isOk (fun item itemMem => ?_) 0
          rcases valid item itemMem with ⟨_, _, itemValid⟩
          exact ih elementDeclared itemValid
      | _ => simp [CallSite.ValidAt] at valid
  | map key item ihKey ihItem =>
      rcases paramType?_map declared with ⟨keyParam, itemParam, keyDeclared, itemDeclared, rfl⟩
      cases arg with
      | mapping pairs =>
          simp only [CallSite.ValidAt] at valid
          refine convertPairs_isOk (fun pair pairMem => ?_) (fun pair pairMem => ?_) []
          · rcases (valid pair pairMem).1 with ⟨_, _, keyValid⟩
            exact ihKey keyDeclared keyValid
          · rcases (valid pair pairMem).2 with ⟨_, _, itemValid⟩
            exact ihItem itemDeclared itemValid
      | _ => simp [CallSite.ValidAt] at valid

/-! ## Taking the arguments of a call -/

/-- One argument for each of several native types, in order, and each converts. -/
def NativeType.AllConvert (types : List NativeType) (args : List Arg) : Prop :=
  List.Forall₂ (fun type arg => ∃ value, type.ofArg arg = .ok value) types args

theorem NativeType.allConvert_of_validFrom {site : CallSite} {slots : Slots}
    {types : List NativeType} {params : List ParamType}
    (declared : types.mapM paramType? = some params) {cursor : Nat} {args : List Arg}
    (valid : site.ValidFrom slots cursor params args) : AllConvert types args := by
  induction types generalizing params cursor args with
  | nil =>
      have noParams : [] = params := by simpa using declared
      subst noParams
      cases valid with
      | nil => exact .nil
  | cons type rest ih =>
      simp only [List.mapM_cons, Option.bind_eq_bind, Option.bind_eq_some_iff,
        Option.pure_def, Option.some.injEq] at declared
      rcases declared with ⟨param, paramDeclared, restParams, restDeclared, rfl⟩
      cases valid with
      | cons argValid _ restValid =>
          exact .cons (ofArg_isOk_of_validAt paramDeclared argValid) (ih restDeclared restValid)

/-- Taking an argument that converts gives its value and leaves the arguments after it. -/
theorem Args.takeNext_of_ofArg {args : Args} {arg : Arg} {rest : List Arg}
    (left : args.values.drop args.next = arg :: rest) {type : NativeType}
    {value : type.Carrier} (converted : type.ofArg arg = .ok value) :
    args.takeNext type = (.ok value, args.advance) ∧
      args.advance.values.drop args.advance.next = rest := by
  have found : args.get? args.next = some arg := by
    simpa [Args.get?] using congrArg List.head? left
  constructor
  · simp only [takeNext, found, converted]
  · have behind := congrArg List.tail left
    rw [List.tail_drop, List.tail_cons] at behind
    simp only [advance, List.drop_set_of_lt (Nat.lt_succ_self _)]
    exact behind

namespace NativeM

/-- Takes an argument for each of several native types in turn, up to the first rejection. -/
def takeAll : List NativeType → NativeM (List ((type : NativeType) × type.Carrier))
  | [] => pure []
  | type :: rest => do
      let value ← take type
      let values ← takeAll rest
      pure (⟨type, value⟩ :: values)

theorem takeAll_cons {type : NativeType} {rest : List NativeType} {args after last : Args}
    {value : type.Carrier} {values : List ((type : NativeType) × type.Carrier)}
    (taken : args.takeNext type = (.ok value, after))
    (restTaken : takeAll rest after = (.ok values, last)) :
    takeAll (type :: rest) args = (.ok (⟨type, value⟩ :: values), last) := by
  simp only [takeAll, take, bind, ExceptT.bind, ExceptT.mk, StateT.bind, ExceptT.bindCont,
    taken, restTaken]
  rfl

theorem takeAll_of_allConvert {types : List NativeType} {args : Args}
    (convert : NativeType.AllConvert types (args.values.drop args.next)) :
    ∃ values last, takeAll types args = (.ok values, last) ∧ values.map Sigma.fst = types := by
  induction types generalizing args with
  | nil => exact ⟨[], args, rfl, rfl⟩
  | cons type rest ih =>
      generalize left : args.values.drop args.next = available at convert
      cases convert with
      | cons argConverts restConvert =>
          rcases argConverts with ⟨value, converted⟩
          rcases Args.takeNext_of_ofArg left converted with ⟨taken, behind⟩
          rw [← behind] at restConvert
          rcases ih restConvert with ⟨values, last, restTaken, ofTypes⟩
          exact ⟨⟨type, value⟩ :: values, last, takeAll_cons taken restTaken, by simp [ofTypes]⟩

/-- A function that takes its arguments as they are declared is never rejected: if reading a
signature of native types records no failure, then taking one argument for each of them
gives a value every time. -/
theorem takeAll_of_extractAll (site : CallSite) (types : List NativeType)
    {params : List ParamType} (declared : types.mapM NativeType.paramType? = some params)
    (arguments : List Value) (start : Nat) {args : List Arg} {cursor : Nat}
    {state : FailureState}
    (extracted : site.extractAll (.ofValues arguments) params start .clear =
      (args, cursor, state))
    (unfailed : state.isSet = false) :
    ∃ values last, takeAll types (.ofList site.function args) = (.ok values, last) ∧
      values.map Sigma.fst = types := by
  have isClear : state = .clear := FailureState.eq_clear_of_not_isSet (by simp [unfailed])
  subst isClear
  have simulated := site.outcome_extractAll (.ofValues arguments) params start
  rw [extracted] at simulated
  have returned : site.referenceParams (.ofValues arguments) params start =
      .ok (args, cursor) := simulated.symm
  apply takeAll_of_allConvert
  exact NativeType.allConvert_of_validFrom declared
    (CallSite.validFrom_of_referenceParams (Slots.coherent_ofValues arguments) returned)

/-- A function of a flag and of a list of flags that may be missing, called with both. -/
theorem takeAll_flags :
    let site : CallSite := ⟨"setFlags", ⟨0⟩, default⟩
    let types : List NativeType := [.boolean, .option (.list .boolean)]
    let params : List ParamType := [.boolean, .optional (.sequence .boolean)]
    let arguments : List Value := [.boolean true, .sequence [.boolean false]]
    let args : List Arg := [.boolean true, .optional (some (.sequence [.boolean false]))]
    types.mapM NativeType.paramType? = some params ∧
      site.extractAll (.ofValues arguments) params 1 .clear = (args, 3, .clear) ∧
      ∃ values last, takeAll types (.ofList site.function args) = (.ok values, last) ∧
        values.map Sigma.fst = types :=
  ⟨rfl, rfl, takeAll_of_extractAll ⟨"setFlags", ⟨0⟩, default⟩
    [.boolean, .option (.list .boolean)] rfl
    [.boolean true, .sequence [.boolean false]] 1 rfl rfl⟩

end NativeM

end ScriptBridge
