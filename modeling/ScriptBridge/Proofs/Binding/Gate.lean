import ScriptBridge.Binding.Basic
import ScriptBridge.Proofs.Extraction.Shape

/-!
# Declarations that can be bound

A declaration is refused if it has no function, and otherwise if a union without alternatives
stands anywhere within a parameter; the first such parameter is the one that is named
(`bind_eq_error_iff`).  What is accepted is safe to read: whatever is extracted of a parameter
has the parameter's shape, also where reading fails and after a failure.  The default of a union
without alternatives, which has no shape, is not among it.
-/

namespace ScriptBridge

/-- No union in a signature that is bound is without alternatives. -/
theorem Binding.not_within_params (binding : Binding) {param : ParamType}
    (declared : param ∈ binding.params) : ¬(ParamType.union []).Within param := by
  rw [← ParamType.hasEmptyUnion_eq_true_iff, binding.paramsReadable param declared]
  exact Bool.false_ne_true

namespace Declaration

variable {declaration : Declaration}

/-- There is a reason not to bind the declaration. -/
inductive Refused (declaration : Declaration) : BindError → Prop where
  | unimplemented (missing : declaration.native = none) :
      Refused declaration (.missingImplementation declaration.name)
  | emptyUnion {index : Nat} {param : ParamType}
      (implemented : declaration.native.isSome = true)
      (declared : declaration.params[index]? = some param)
      (empty : (ParamType.union []).Within param)
      (first : ∀ earlier < index, ∀ other, declaration.params[earlier]? = some other →
        ¬(ParamType.union []).Within other) :
      Refused declaration (.emptyUnion declaration.name (index + 1))

/-- The parameter that is named is the first one with an empty union. -/
theorem findIdx?_hasEmptyUnion_eq_some_iff {params : List ParamType} {index : Nat} :
    params.findIdx? ParamType.hasEmptyUnion = some index ↔
      ∃ param, params[index]? = some param ∧ (ParamType.union []).Within param ∧
        ∀ earlier < index, ∀ other, params[earlier]? = some other →
          ¬(ParamType.union []).Within other := by
  simp only [List.findIdx?_eq_some_iff_getElem, ParamType.hasEmptyUnion_eq_true_iff,
    List.getElem?_eq_some_iff]
  constructor
  · rintro ⟨inside, empty, first⟩
    refine ⟨params[index], ⟨inside, rfl⟩, empty, ?_⟩
    rintro earlier before other ⟨_, rfl⟩
    exact first earlier before
  · rintro ⟨param, ⟨inside, rfl⟩, empty, first⟩
    exact ⟨inside, empty, fun earlier before => first earlier before _ ⟨_, rfl⟩⟩

theorem bind_eq_error_iff {error : BindError} :
    declaration.bind = .error error ↔ declaration.Refused error := by
  constructor
  · intro failed
    simp only [bind] at failed
    split at failed
    · rename_i missing
      cases failed
      exact .unimplemented missing
    · rename_i native given
      split at failed
      · rename_i index found
        cases failed
        rcases findIdx?_hasEmptyUnion_eq_some_iff.mp found with ⟨param, declared, empty, first⟩
        exact .emptyUnion (by rw [given]; rfl) declared empty first
      · cases failed
  · intro refused
    cases refused with
    | unimplemented missing =>
        simp only [bind]
        split
        · rfl
        · rename_i given
          rw [missing] at given
          cases given
    | @emptyUnion index param implemented declared empty first =>
        have found := findIdx?_hasEmptyUnion_eq_some_iff.mpr ⟨param, declared, empty, first⟩
        simp only [bind]
        split
        · rename_i missing
          rw [missing] at implemented
          cases implemented
        · split
          · rename_i other foundOther
            rw [found] at foundOther
            cases foundOther
            rfl
          · rename_i readable
            rw [found] at readable
            cases readable

theorem bind_eq_ok {binding : Binding} (bound : declaration.bind = .ok binding) :
    declaration.native.isSome = true ∧ binding.params = declaration.params := by
  simp only [bind] at bound
  split at bound
  · cases bound
  · rename_i native given
    split at bound
    · cases bound
    · cases bound
      exact ⟨by rw [given]; rfl, rfl⟩

/-- The gate of a declaration is exact, and what it lets through is safe to read.  A declaration
is bound exactly if it has a function and no union without alternatives stands within a
parameter, and is refused otherwise for the missing function or else for its first such parameter.
Whatever is extracted of a parameter that is bound, from whatever frame, with whatever registries
and after whatever failures, has the parameter's shape, and where a union holds a placeholder, at
any depth, the alternative of its index is the placeholder. -/
theorem bound_parameters_shaped (declaration : Declaration) :
    ((∃ binding, declaration.bind = .ok binding) ↔
      declaration.native.isSome = true ∧
        ∀ param ∈ declaration.params, ¬(ParamType.union []).Within param) ∧
    (∀ error, declaration.bind = .error error ↔ declaration.Refused error) ∧
    ∀ binding, declaration.bind = .ok binding →
      binding.params = declaration.params ∧
      ∀ type ∈ binding.params, ∀ (site : CallSite) (slots : Slots) (cursor : Nat)
        (state : FailureState),
        let arg := (site.extract type slots cursor state).arg
        arg.HasShape type ∧
          ∀ index alternatives,
            (Arg.union index .placeholder).Holds (.union alternatives) arg type →
              alternatives[index]? = some .placeholder := by
  refine ⟨?_, fun _ => bind_eq_error_iff, ?_⟩
  · constructor
    · rintro ⟨binding, bound⟩
      rcases bind_eq_ok bound with ⟨implemented, sameParams⟩
      refine ⟨implemented, fun param declared => binding.not_within_params ?_⟩
      rwa [sameParams]
    · rintro ⟨implemented, filled⟩
      cases outcome : declaration.bind with
      | ok binding => exact ⟨binding, rfl⟩
      | error error =>
          cases bind_eq_error_iff.mp outcome with
          | unimplemented missing =>
              rw [missing] at implemented
              cases implemented
          | emptyUnion _ declared empty _ =>
              exact absurd empty (filled _ (List.mem_of_getElem? declared))
  · intro binding bound
    refine ⟨(bind_eq_ok bound).2, ?_⟩
    intro type declared site slots cursor state arg
    have shaped : arg.HasShape type :=
      CallSite.hasShape_extract (binding.not_within_params declared) slots cursor state
    exact ⟨shaped, fun _ _ holds => (shaped.of_holds holds).alternative_of_placeholder⟩

/-- An empty union under an optional second parameter, and a union that starts with the
placeholder, which is extracted after a failure. -/
theorem bound_parameters_shaped_pick :
    let declared (params : List ParamType) : Declaration :=
      { ofName "pick" with params := params, native := some (pure .none) }
    let padded : ParamType := .union [.placeholder, .boolean]
    let site : CallSite := ⟨"pick", ⟨0⟩, default⟩
    let failed : FailureState := ⟨some (.rejected ⟨"earlier"⟩)⟩
    (declared [.boolean, .optional (.union [])]).bind = .error (.emptyUnion "pick" 2) ∧
    ∃ binding, (declared [padded]).bind = .ok binding ∧ padded ∈ binding.params ∧
      (site.extract padded (.ofValues []) 1 failed).arg = .union 0 .placeholder ∧
      (Arg.union 0 .placeholder).HasShape padded := by
  intro declared padded site failed
  have refused := (bound_parameters_shaped (declared [.boolean, .optional (.union [])])).2.1
  have accepted := bound_parameters_shaped (declared [padded])
  have filled : ∀ param ∈ (declared [padded]).params, ¬(ParamType.union []).Within param := by
    rw [List.forall_mem_singleton, ← ParamType.hasEmptyUnion_eq_true_iff]
    decide
  have extracted : (site.extract padded (.ofValues []) 1 failed).arg = .union 0 .placeholder := rfl
  rcases accepted.1.mpr ⟨rfl, filled⟩ with ⟨binding, bound⟩
  rcases accepted.2.2 binding bound with ⟨sameParams, shaped⟩
  have member : padded ∈ binding.params := sameParams ▸ List.mem_cons_self
  refine ⟨(refused _).mpr (@Refused.emptyUnion _ 1 _ rfl rfl (.optional .whole) ?_), binding, bound,
    member, extracted, ?_⟩
  · intro earlier before other isOther
    rcases Nat.lt_one_iff.mp before with rfl
    cases isOther
    nofun
  · have here := (shaped padded member site (.ofValues []) 1 failed).1
    rwa [extracted] at here

end Declaration

end ScriptBridge
