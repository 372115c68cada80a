import ScriptBridge.Proofs.Extraction.Locality

/-!
# Optional arguments that are not there

An optional parameter whose slot does not fit it, or holds text where a number is wanted, gives
an empty argument and leaves the slot to the next parameter.  A signature is read in two parts:
the parameters before a place, and those after it from where the first ones left the cursor
(`extractAll_append`).  A missing optional leaves the cursor where it was, so that the second
part is read as if it had not been declared: only its empty argument is added to the list
(`extractAll_missing_optional`).
-/

namespace ScriptBridge

/-- The slot at a position is not the argument of an optional parameter of this type: it does
not fit, or is no number where a number is wanted. -/
def ParamType.MissingAt (type : ParamType) (slots : Slots) (position : Nat) : Prop :=
  type.matchesAt slots position = false ∨
    type.isNumber = true ∧ slots.numberAt position = none

theorem ParamType.missingAt_iff {type : ParamType} {slots : Slots} {position : Nat} :
    type.MissingAt slots position ↔ type.coerciblyMatchesAt slots position = false := by
  rw [MissingAt, coerciblyMatchesAt, Bool.and_eq_false_iff, Bool.or_eq_false_iff,
    Bool.not_eq_false', Option.isSome_eq_false_iff, Option.isNone_iff_eq_none]

namespace CallSite

variable {site : CallSite} {slots : Slots}

/-- A missing optional uses no slot, and nothing fails. -/
theorem extract_missing_optional {type : ParamType} {cursor : Nat}
    (missing : type.MissingAt slots cursor) :
    site.extract (.optional type) slots cursor .clear = ⟨.optional none, cursor, .clear⟩ := by
  have fits : (ParamType.optional type).matchesAt slots cursor = true := rfl
  rw [extract_of_fits fits]
  simp only [read, ParamType.missingAt_iff.mp missing, Bool.false_eq_true, if_false]

/-- If a signature is read without a failure, then so is its first parameter, and the others from
where that one left the cursor. -/
theorem succeeded_of_extractAll_cons {type : ParamType} {rest : List ParamType} {start : Nat}
    (succeeded : (site.extractAll slots (type :: rest) start .clear).2.2 = .clear) :
    (site.extract type slots start .clear).state.isSet = false ∧
      (site.extractAll slots rest (site.extract type slots start .clear).cursor .clear).2.2 =
        .clear := by
  rw [extractAll_cons] at succeeded
  dsimp only at succeeded
  split at succeeded
  · rename_i alreadySet
    dsimp only at succeeded
    rw [succeeded] at alreadySet
    cases alreadySet
  · rename_i notSet
    exact ⟨Bool.eq_false_iff.mpr notSet, succeeded⟩

/-- Parameters that are read without a failure give an argument each. -/
theorem length_of_extractAll {params : List ParamType} {start : Nat}
    (succeeded : (site.extractAll slots params start .clear).2.2 = .clear) :
    (site.extractAll slots params start .clear).1.length = params.length := by
  induction params generalizing start with
  | nil => rfl
  | cons type rest ih =>
      rcases succeeded_of_extractAll_cons succeeded with ⟨notSet, restSucceeded⟩
      simp [extractAll_cons, notSet, ih restSucceeded]

/-- The parameters after some that are read without a failure are read from where those left
the cursor. -/
theorem extractAll_append {before : List ParamType} {start : Nat}
    (succeeded : (site.extractAll slots before start .clear).2.2 = .clear)
    (after : List ParamType) :
    site.extractAll slots (before ++ after) start .clear =
      let read := site.extractAll slots before start .clear
      let rest := site.extractAll slots after read.2.1 .clear
      (read.1 ++ rest.1, rest.2) := by
  induction before generalizing start with
  | nil => rfl
  | cons type before ih =>
      rcases succeeded_of_extractAll_cons succeeded with ⟨notSet, beforeSucceeded⟩
      simp [extractAll_cons, notSet, ih beforeSucceeded]

/-- A missing optional is transparent.  If the parameters before it are read without a failure
and leave the cursor at a slot that is not its argument, then the signature is read as if it
were not declared, and an empty argument stands in its place: the other arguments, the last
cursor and a failure of a later parameter, with its position and its message, are the same. -/
theorem extractAll_missing_optional {before : List ParamType} {start cursor : Nat}
    {args : List Arg}
    (succeeded : site.extractAll slots before start .clear = (args, cursor, .clear))
    {type : ParamType} (missing : type.MissingAt slots cursor) (after : List ParamType) :
    site.extractAll slots (before ++ .optional type :: after) start .clear =
      let without := site.extractAll slots (before ++ after) start .clear
      (without.1.insertIdx before.length (.optional none), without.2) := by
  have noFailure : (site.extractAll slots before start .clear).2.2 = .clear := by rw [succeeded]
  have argsLength : args.length = before.length := by
    simpa only [succeeded] using length_of_extractAll noFailure
  have optionalRead : site.extractAll slots (.optional type :: after) cursor .clear =
      let rest := site.extractAll slots after cursor .clear
      (.optional none :: rest.1, rest.2) := by
    rw [extractAll_cons, extract_missing_optional missing]
    rfl
  simp only [extractAll_append noFailure, succeeded, optionalRead, ← argsLength]
  congr 1
  exact (List.modifyTailIdx_add (List.cons (Arg.optional none)) 0 args _).symm

/-- A name that is no number, where a number and then a flag could stand. -/
theorem extractAll_missing_optional_name :
    let site : CallSite := ⟨"spawn", ⟨0⟩, default⟩
    let slots : Slots := .ofValues [.string (.ofString "guard"), .string (.ofString "tower")]
    let read : List Arg := [.string (.ofString "guard")]
    let failure : FailureState :=
      ⟨some (.badArgument .structuralMismatch "spawn" "boolean" 2 "string (\"tower\")")⟩
    (ParamType.number .int32).MissingAt slots 2 ∧
      site.extractAll slots [.string, .boolean] 1 .clear =
        (read ++ [.boolean false], 2, failure) ∧
      site.extractAll slots [.string, .optional (.number .int32), .boolean] 1 .clear =
        (read ++ [.optional none, .boolean false], 2, failure) := by
  intro site slots read failure
  have succeeded : site.extractAll slots [.string] 1 .clear = (read, 2, .clear) := rfl
  have missing : (ParamType.number .int32).MissingAt slots 2 := Or.inr ⟨rfl, by decide⟩
  have without : site.extractAll slots [.string, .boolean] 1 .clear =
      (read ++ [.boolean false], 2, failure) := rfl
  refine ⟨missing, without, ?_⟩
  have transparent := extractAll_missing_optional succeeded missing [.boolean]
  simp only [List.cons_append, List.nil_append, without] at transparent
  exact transparent

end CallSite

end ScriptBridge
