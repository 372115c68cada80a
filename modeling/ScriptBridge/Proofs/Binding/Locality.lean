import ScriptBridge.Proofs.Extraction.Locality
import ScriptBridge.Proofs.Extraction.Soundness

/-!
# What a call depends on

A call of a function with some number of parameters depends on as many slots from the first one
on, and a call whose arguments cannot be read does not even depend on those after the argument
that its failure names.  Frames that have the same name and context and agree on these slots are
told apart by no call (`SameOutcome`).
-/

namespace ScriptBridge

/-- Two frames that agree on their slots from the first one to the last. -/
def Slots.AgreeUpTo (slots other : Slots) (last : Nat) : Prop :=
  ∀ position, 1 ≤ position → position ≤ last → slots.AgreeAt other position

namespace Binding

variable {binding : Binding} {frame other : Frame}

/-- Calls on two frames end with the same result, push the same values, and give the same record
to the sink if they give one. -/
def SameOutcome (binding : Binding) (frame other : Frame) : Prop :=
  ∃ (result : Except ArgumentError Nat) (pushed : List Value) (record? : Option FailureRecord),
    ∀ log : FailureLog,
      let logged := record?.elim log fun record => binding.sink.receive record log
      binding.call frame log = ⟨result, frame.push pushed, logged⟩ ∧
        binding.call other log = ⟨result, other.push pushed, logged⟩

/-- The arguments of a call are a matter of the name, the context and the slots of its frame. -/
theorem arguments_congr (sameName : frame.function = other.function)
    (sameContext : frame.context = other.context)
    (sameRead : (binding.callSite frame).extractAll frame.slots binding.params 1 .clear =
      (binding.callSite frame).extractAll other.slots binding.params 1 .clear) :
    binding.arguments frame = binding.arguments other := by
  have sameFunction : binding.functionName frame = binding.functionName other := by
    simp only [functionName, sameName]
  have sameSite : binding.callSite frame = binding.callSite other := by
    simp only [callSite, sameFunction, sameContext]
  rw [arguments, arguments, sameRead, sameSite, sameFunction]

theorem sameOutcome_of_arguments_eq (sameName : frame.function = other.function)
    (sameArguments : binding.arguments frame = binding.arguments other) :
    binding.SameOutcome frame other := by
  have sameFunction : binding.functionName frame = binding.functionName other := by
    simp only [functionName, sameName]
  have sameInvoke : binding.invoke frame = binding.invoke other := by
    rw [invoke_eq, invoke_eq, sameArguments]
  cases invoked : binding.invoke other with
  | ok result =>
      refine ⟨.ok result.toList.length, result.toList, none, ?_⟩
      intro log
      simp only [call_eq, sameInvoke, invoked, Option.elim_none, and_self]
  | error error =>
      cases decided : binding.policy with
      | raise =>
          refine ⟨.error error, [], none, ?_⟩
          intro log
          simp [call_eq, sameInvoke, invoked, decided, Frame.push]
      | substituteAndLog fallback =>
          refine ⟨.ok 1, [fallback], some (.ofError (binding.functionName other) error), ?_⟩
          intro log
          simp only [call_eq, sameInvoke, invoked, decided, sameFunction, Option.elim_some,
            and_self]

/-- A call looks at no slot that it has no parameter for, and at none after the argument that
its failure names. -/
theorem sameOutcome_of_agreeUpTo {last : Nat} (sameName : frame.function = other.function)
    (sameContext : frame.context = other.context)
    (reach : ∀ position, (binding.callSite frame).InReach frame.slots binding.params 1 position →
      position ≤ last)
    (agree : frame.slots.AgreeUpTo other.slots last) : binding.SameOutcome frame other := by
  apply sameOutcome_of_arguments_eq sameName
  apply arguments_congr sameName sameContext
  apply CallSite.extractAll_congr
  intro position reached
  exact agree position reached.1 (reach position reached)

/-- Calls are local.  Extracting a type depends on the answers at the cursor and moves it by at
most one position.  If the arguments of a call cannot be read, the failure names one of them,
and frames that agree up to it have the same outcome; and in any case frames have that agree on
one slot for each parameter, whatever further arguments they hold. -/
theorem call_local (binding : Binding) :
    (∀ (site : CallSite) (type : ParamType) (slots : Slots) (cursor : Nat)
      (state : FailureState),
      ((site.extract type slots cursor state).cursor = cursor ∨
        (site.extract type slots cursor state).cursor = cursor + 1) ∧
      ∀ other : Slots, slots.AgreeAt other cursor →
        site.extract type slots cursor state = site.extract type other cursor state) ∧
    ∀ frame other : Frame, frame.function = other.function → frame.context = other.context →
      (∀ error, binding.arguments frame = .error error →
        ∃ last, error.argument? = some last ∧ 1 ≤ last ∧ last ≤ binding.params.length ∧
          (frame.slots.AgreeUpTo other.slots last → binding.SameOutcome frame other)) ∧
      (frame.slots.AgreeUpTo other.slots binding.params.length →
        binding.SameOutcome frame other) := by
  constructor
  · intro site type slots cursor state
    refine ⟨site.cursor_extract type slots cursor state, ?_⟩
    intro other agree
    exact CallSite.extract_congr agree type state
  · intro frame other sameName sameContext
    constructor
    · intro error failed
      have recorded := arguments_eq_error_iff.mp failed
      rcases CallSite.argument?_of_extractAll recorded with ⟨last, named, first, within⟩
      refine ⟨last, named, first, by omega, ?_⟩
      apply sameOutcome_of_agreeUpTo sameName sameContext
      intro position reached
      exact reached.2.2 error last recorded named
    · apply sameOutcome_of_agreeUpTo sameName sameContext
      intro position reached
      have within := reached.2.1
      omega

/-- A function of two flags, called without a first flag and with one argument too many. -/
theorem call_local_flags :
    let flags : Binding :=
      ⟨"setFlags", [.boolean, .boolean], .raise, .memory, default, pure .none,
        by simp [ParamType.hasEmptyUnion]⟩
    let given (arguments : List Value) : Frame := .ofValues "" ⟨0⟩ arguments
    let unset := given [.nil, .boolean true]
    let unsetToo := given [.nil, .string ⟨[]⟩]
    let set := given [.boolean true, .boolean false]
    let surplus := given [.boolean true, .boolean false, .nil]
    flags.arguments unset =
        .error (.badArgument .structuralMismatch "setFlags" "boolean" 1 "nil") ∧
      unset.slots.AgreeUpTo unsetToo.slots 1 ∧ flags.SameOutcome unset unsetToo ∧
      set.slots.AgreeUpTo surplus.slots 2 ∧ flags.SameOutcome set surplus := by
  intro flags given unset unsetToo set surplus
  have failed : flags.arguments unset =
      .error (.badArgument .structuralMismatch "setFlags" "boolean" 1 "nil") := rfl
  have agreeOnFirst : unset.slots.AgreeUpTo unsetToo.slots 1 := by
    intro position first last
    have isFirst : position = 1 := by omega
    subst isFirst
    constructor <;> rfl
  have agreeOnFlags : set.slots.AgreeUpTo surplus.slots 2 := by
    intro position first last
    have isFlag : position = 1 ∨ position = 2 := by omega
    rcases isFlag with rfl | rfl <;> constructor <;> rfl
  rcases ((call_local flags).2 unset unsetToo rfl rfl).1 _ failed with
    ⟨last, named, _, _, sameOutcome⟩
  cases named
  exact ⟨failed, agreeOnFirst, sameOutcome agreeOnFirst, agreeOnFlags,
    ((call_local flags).2 set surplus rfl rfl).2 agreeOnFlags⟩

end Binding

end ScriptBridge
