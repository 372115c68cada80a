import Mathlib.Logic.Function.Basic
import ScriptBridge.Proofs.Extraction.Missing
import ScriptBridge.Proofs.Extraction.Soundness

/-!
# What calls do to their host

A call ends in one of three ways: its native function returns, its failure is raised, or its
failure is logged and a fallback stands in (`Verdict`).  `Binding.Ends` says when a call ends in
each of them, and on which arguments the native function has been run by then: on none if one of
them could not be read, and otherwise once on all of them.  That is what a host sees that writes
down every run (`Binding.noted`).  `Binding.Accounts` adds what the call leaves behind.

Exactly one verdict accounts for a call (`accounts_verdict`, `eq_verdict_of_accounts`).  A run of
calls, on frames that calls may come back to and with one log for all, is accounted for call by
call, and what the whole run has logged and pushed is what its verdicts say.
-/

namespace ScriptBridge

/-- How a call went. -/
inductive Verdict where
  /-- The native function was run on the arguments and returned. -/
  | returned (args : Args) (result : Return)
  | raised (error : ArgumentError)
  | substituted (error : ArgumentError) (fallback : Value)

namespace Verdict

/-- The values that a call pushes. -/
def pushed : Verdict → List Value
  | returned _ .none => []
  | returned _ (.value value) => [value]
  | returned _ (.values values) => values
  | raised _ => []
  | substituted _ fallback => [fallback]

/-- What a call comes to: the number of the values that it pushes, or the failure. -/
def result : Verdict → Except ArgumentError Nat
  | returned _ .none => .ok 0
  | returned _ (.value _) => .ok 1
  | returned _ (.values values) => .ok values.length
  | raised error => .error error
  | substituted _ _ => .ok 1

/-- The records that a call of a function logs. -/
def records (function : String) : Verdict → List FailureRecord
  | returned _ _ => []
  | raised _ => []
  | substituted error _ => [⟨function, error.kind, error.message⟩]

end Verdict

def FailurePolicy.verdict (error : ArgumentError) : FailurePolicy → Verdict
  | raise => .raised error
  | substituteAndLog fallback => .substituted error fallback

namespace Binding

/-- The name under which a call is logged: the one that the frame gives, or else the binding's. -/
def calledAs (binding : Binding) (frame : Frame) : String :=
  if frame.function = "" then binding.name else frame.function

theorem functionName_eq (binding : Binding) (frame : Frame) :
    binding.functionName frame = binding.calledAs frame := by
  simp only [functionName, calledAs, String.isEmpty_iff]

/-! ## How often the native function runs -/

/-- The native function of a binding, run by a host that notes its arguments. -/
def noting (binding : Binding) (args : Args) :
    StateM (List Args) (Except InvalidArgument Return) := do
  modify fun noted => noted ++ [args]
  return (binding.native args).1

/-- A call in a host that notes every run of the native function: what the call leaves, and the
arguments of the runs in order. -/
def noted (binding : Binding) (frame : Frame) (log : FailureLog) : CallOutcome × List Args :=
  (binding.callIn binding.noting frame log).run []

/-- A host that notes the runs sees the call as it is, and at most one run. -/
theorem noted_eq (binding : Binding) (frame : Frame) (log : FailureLog) :
    binding.noted frame log =
      (binding.call frame log,
        match binding.arguments frame with
        | .error _ => []
        | .ok args => [args]) := by
  simp only [noted, call, callIn, invokeIn]
  cases binding.arguments frame with
  | error error => cases binding.policy <;> rfl
  | ok args =>
      simp only [noting, runNative]
      cases (binding.native args).1 with
      | ok result => rfl
      | error signal => cases binding.policy <;> rfl

/-! ## One call -/

/-- What extracting the parameters of a call comes to: an argument for each of them, or the
failure of one. -/
def Extracts (binding : Binding) (frame : Frame) (read : Except ArgumentError Args) : Prop :=
  let site : CallSite := ⟨binding.calledAs frame, frame.context, binding.registries⟩
  let (values, _, state) := site.extractAll frame.slots binding.params 1 .clear
  match read with
  | .ok args =>
      state = .clear ∧ values.length = binding.params.length ∧
        .ofList (binding.calledAs frame) values = args
  | .error error => state.first = some error

theorem extracts_iff {binding : Binding} {frame : Frame} {read : Except ArgumentError Args} :
    binding.Extracts frame read ↔ binding.arguments frame = read := by
  have site : binding.callSite frame =
      ⟨binding.calledAs frame, frame.context, binding.registries⟩ := by
    rw [callSite, functionName_eq]
  cases read with
  | error error =>
      rw [arguments_eq_error_iff, site]
      rfl
  | ok args =>
      rw [arguments_eq_ok_iff, site, functionName_eq]
      constructor
      · rintro ⟨succeeded, -, handed⟩
        exact ⟨succeeded, handed⟩
      · rintro ⟨succeeded, handed⟩
        exact ⟨succeeded, CallSite.length_of_extractAll succeeded, handed⟩

/-- A call fails after these runs of the native function.  An argument cannot be read, and then
it is not run, or it is run once and rejects what it is given. -/
inductive FailsWith (binding : Binding) (frame : Frame) : ArgumentError → List Args → Prop where
  | unread {error : ArgumentError} (unread : binding.Extracts frame (.error error)) :
      FailsWith binding frame error []
  | rejected {args : Args} {signal : InvalidArgument}
      (read : binding.Extracts frame (.ok args))
      (rejects : (binding.native args).1 = .error signal) :
      FailsWith binding frame (.rejected signal) [args]

/-- A call ends with this verdict after these runs of the native function. -/
inductive Ends (binding : Binding) (frame : Frame) : Verdict → List Args → Prop where
  | returned {args : Args} {result : Return} (read : binding.Extracts frame (.ok args))
      (returns : (binding.native args).1 = .ok result) :
      Ends binding frame (.returned args result) [args]
  | raised {error : ArgumentError} {runs : List Args}
      (fails : binding.FailsWith frame error runs) (raises : binding.policy = .raise) :
      Ends binding frame (.raised error) runs
  | substituted {error : ArgumentError} {runs : List Args} {fallback : Value}
      (fails : binding.FailsWith frame error runs)
      (substitutes : binding.policy = .substituteAndLog fallback) :
      Ends binding frame (.substituted error fallback) runs

/-- What a call has left behind, and how it came to it. -/
structure Accounts (binding : Binding) (frame : Frame) (log : FailureLog)
    (outcome : CallOutcome) (verdict : Verdict) : Prop where
  ends : ∃ runs, binding.Ends frame verdict runs ∧ binding.noted frame log = (outcome, runs)
  result : outcome.result = verdict.result
  pushes : outcome.frame = { frame with returns := frame.returns ++ verdict.pushed }
  logs : outcome.log.records = log.records ++ verdict.records (binding.calledAs frame)

def verdict (binding : Binding) (frame : Frame) : Verdict :=
  match binding.arguments frame with
  | .error error => binding.policy.verdict error
  | .ok args =>
      match (binding.native args).1 with
      | .ok result => .returned args result
      | .error signal => binding.policy.verdict (.rejected signal)

namespace FailsWith

variable {binding : Binding} {frame : Frame} {error : ArgumentError} {runs : List Args}

theorem invoke (fails : binding.FailsWith frame error runs) :
    binding.invoke frame = .error error := by
  cases fails with
  | unread unread => rw [invoke_eq, extracts_iff.mp unread]
  | rejected read rejects =>
      rw [invoke_eq, extracts_iff.mp read]
      simp only [rejects, Except.mapError]

theorem noted (fails : binding.FailsWith frame error runs) (log : FailureLog) :
    binding.noted frame log = (binding.call frame log, runs) := by
  cases fails with
  | unread unread => rw [noted_eq, extracts_iff.mp unread]
  | rejected read _ => rw [noted_eq, extracts_iff.mp read]

theorem verdict (fails : binding.FailsWith frame error runs) :
    binding.verdict frame = binding.policy.verdict error := by
  cases fails with
  | unread unread => simp only [Binding.verdict, extracts_iff.mp unread]
  | rejected read rejects => simp only [Binding.verdict, extracts_iff.mp read, rejects]

theorem accounts (fails : binding.FailsWith frame error runs) (memory : binding.sink = .memory)
    (log : FailureLog) :
    binding.Accounts frame log (binding.call frame log) (binding.policy.verdict error) := by
  have seen := fails.noted log
  cases decided : binding.policy with
  | raise =>
      have called : binding.call frame log = ⟨.error error, frame, log⟩ := by
        simp only [call_eq, fails.invoke, decided]
      rw [called] at seen ⊢
      refine ⟨⟨runs, .raised fails decided, seen⟩, rfl, ?_, ?_⟩
      · simp [FailurePolicy.verdict, Verdict.pushed]
      · simp [FailurePolicy.verdict, Verdict.records]
  | substituteAndLog fallback =>
      have called : binding.call frame log = ⟨.ok 1, frame.push [fallback],
          log.append (.ofError (binding.functionName frame) error)⟩ := by
        simp only [call_eq, fails.invoke, decided, memory, Sink.receive]
      rw [called] at seen ⊢
      refine ⟨⟨runs, .substituted fails decided, seen⟩, rfl, rfl, ?_⟩
      rw [functionName_eq]
      rfl

end FailsWith

theorem accounts_of_returned {binding : Binding} {frame : Frame} {args : Args} {result : Return}
    (read : binding.Extracts frame (.ok args)) (returns : (binding.native args).1 = .ok result)
    (log : FailureLog) :
    binding.Accounts frame log (binding.call frame log) (.returned args result) := by
  have returned := extracts_iff.mp read
  have called : binding.call frame log =
      ⟨.ok result.toList.length, frame.push result.toList, log⟩ := by
    simp only [call_eq, invoke_eq, returned, returns, Except.mapError]
  have seen : binding.noted frame log = (binding.call frame log, [args]) := by
    rw [noted_eq, returned]
  rw [called] at seen ⊢
  refine ⟨⟨[args], .returned read returns, seen⟩, ?_, ?_, ?_⟩
  · cases result <;> rfl
  · cases result <;> rfl
  · exact (List.append_nil _).symm

theorem accounts_verdict {binding : Binding} (memory : binding.sink = .memory) (frame : Frame)
    (log : FailureLog) :
    binding.Accounts frame log (binding.call frame log) (binding.verdict frame) := by
  cases read : binding.arguments frame with
  | error error =>
      have fails : binding.FailsWith frame error [] := .unread (extracts_iff.mpr read)
      rw [fails.verdict]
      exact fails.accounts memory log
  | ok args =>
      have extracts := extracts_iff.mpr read
      cases ended : (binding.native args).1 with
      | error signal =>
          have fails : binding.FailsWith frame (.rejected signal) [args] :=
            .rejected extracts ended
          rw [fails.verdict]
          exact fails.accounts memory log
      | ok result =>
          have returned : binding.verdict frame = .returned args result := by
            simp only [verdict, read, ended]
          rw [returned]
          exact accounts_of_returned extracts ended log

theorem eq_verdict_of_accounts {binding : Binding} {frame : Frame} {log : FailureLog}
    {outcome : CallOutcome} {other : Verdict}
    (accounts : binding.Accounts frame log outcome other) : other = binding.verdict frame := by
  rcases accounts.ends with ⟨runs, ends, -⟩
  cases ends with
  | returned read returns => simp only [verdict, extracts_iff.mp read, returns]
  | raised fails raises =>
      rw [fails.verdict, raises]
      rfl
  | substituted fails substitutes =>
      rw [fails.verdict, substitutes]
      rfl

/-! ## One call under two policies -/

def withPolicy (binding : Binding) (policy : FailurePolicy) : Binding :=
  { binding with policy }

theorem invoke_withPolicy (binding : Binding) (policy : FailurePolicy) (frame : Frame) :
    (binding.withPolicy policy).invoke frame = binding.invoke frame :=
  rfl

/-- What a call comes to is not up to the policy, only what is done about a failure: the call
that raises and the call that logs return alike, or the one logs the error that the other
raises. -/
def PolicyParity (binding : Binding) (frame : Frame) (log : FailureLog) : Prop :=
  ∀ fallback : Value,
    let raising := (binding.withPolicy .raise).call frame log
    let logging := (binding.withPolicy (.substituteAndLog fallback)).call frame log
    match raising.result with
    | .ok _ => logging = raising
    | .error error =>
        logging = ⟨.ok 1, { frame with returns := frame.returns ++ [fallback] },
          ⟨log.records ++ [⟨binding.calledAs frame, error.kind, error.message⟩]⟩⟩

theorem policyParity {binding : Binding} (memory : binding.sink = .memory) (frame : Frame)
    (log : FailureLog) : binding.PolicyParity frame log := by
  intro fallback
  have memoryToo : (binding.withPolicy (.substituteAndLog fallback)).sink = .memory := memory
  cases invoked : binding.invoke frame with
  | ok result => simp only [call_eq, invoke_withPolicy, invoked]
  | error error =>
      simp only [call_eq, invoke_withPolicy, invoked, memoryToo, Sink.receive, ← functionName_eq]
      rfl

end Binding

/-! ## Runs of calls -/

/-- A call of a run: a binding, and the number of the frame that it is called on. -/
structure HostCall where
  binding : Binding
  frame : Nat

/-- What the calls of a run act on: frames, which more than one call may use, and one log. -/
structure Host where
  frames : Nat → Frame
  log : FailureLog

/-- A call at its turn in a run. -/
structure Turn where
  call : HostCall
  before : Host

namespace Turn

variable (turn : Turn)

def frame : Frame :=
  turn.before.frames turn.call.frame

def function : String :=
  turn.call.binding.calledAs turn.frame

def outcome : CallOutcome :=
  turn.call.binding.call turn.frame turn.before.log

/-- The host after the call, which leaves all frames but its own as they are. -/
def after : Host where
  frames := Function.update turn.before.frames turn.call.frame turn.outcome.frame
  log := turn.outcome.log

def verdict : Verdict :=
  turn.call.binding.verdict turn.frame

def AccountedBy (verdict : Verdict) : Prop :=
  turn.call.binding.Accounts turn.frame turn.before.log turn.outcome verdict

end Turn

namespace Host

/-- The calls of a run at their turns: each finds the host as the calls before it left it. -/
def turns (host : Host) : List HostCall → List Turn
  | [] => []
  | call :: rest => ⟨call, host⟩ :: turns (Turn.after ⟨call, host⟩) rest

def run (host : Host) : List HostCall → Host
  | [] => host
  | call :: rest => run (Turn.after ⟨call, host⟩) rest

theorem call_mem_of_mem_turns {host : Host} {calls : List HostCall} {turn : Turn}
    (member : turn ∈ host.turns calls) : turn.call ∈ calls := by
  induction calls generalizing host with
  | nil => simp [turns] at member
  | cons call rest ih =>
      rcases List.mem_cons.mp member with rfl | later
      · exact List.mem_cons_self
      · exact List.mem_cons_of_mem call (ih later)

/-- A run logs what the verdicts on its calls say, in the order of the calls. -/
theorem records_run {host : Host} {calls : List HostCall}
    (accounted : ∀ turn ∈ host.turns calls, turn.AccountedBy turn.verdict) :
    (host.run calls).log.records =
      host.log.records ++
        (host.turns calls).flatMap fun turn => turn.verdict.records turn.function := by
  induction calls generalizing host with
  | nil => exact (List.append_nil _).symm
  | cons call rest ih =>
      have first := accounted ⟨call, host⟩ List.mem_cons_self
      have logged := first.logs
      rw [run, turns, List.flatMap_cons, ← List.append_assoc]
      rw [ih fun turn member => accounted turn (List.mem_cons_of_mem _ member)]
      exact congrArg (· ++ _) logged

/-- A run pushes on a frame what the verdicts on the calls of that frame say. -/
theorem returns_run {host : Host} {calls : List HostCall}
    (accounted : ∀ turn ∈ host.turns calls, turn.AccountedBy turn.verdict) (number : Nat) :
    ((host.run calls).frames number).returns =
      (host.frames number).returns ++
        ((host.turns calls).filter fun turn => turn.call.frame == number).flatMap fun turn =>
          turn.verdict.pushed := by
  induction calls generalizing host with
  | nil => exact (List.append_nil _).symm
  | cons call rest ih =>
      have first := accounted ⟨call, host⟩ List.mem_cons_self
      have pushed := congrArg Frame.returns first.pushes
      rw [run, turns, List.filter_cons]
      rw [ih fun turn member => accounted turn (List.mem_cons_of_mem _ member)]
      by_cases own : call.frame = number
      · subst own
        simp only [Turn.after, Function.update_self, beq_self_eq_true, if_true,
          List.flatMap_cons, ← List.append_assoc]
        exact congrArg (· ++ _) pushed
      · have other : ¬number = call.frame := fun same => own same.symm
        simp [Turn.after, own, other]

/-- A run of calls is accounted for.  Each of its calls has exactly one verdict; two policies
make two calls of it that fail together and with one error; and what the run as a whole has
logged and pushed is what its verdicts say. -/
theorem run_accounted (host : Host) (calls : List HostCall)
    (shared : ∀ call ∈ calls, call.binding.sink = .memory) :
    (∀ turn ∈ host.turns calls,
      turn.AccountedBy turn.verdict ∧
        (∀ other, turn.AccountedBy other → other = turn.verdict) ∧
        turn.call.binding.PolicyParity turn.frame turn.before.log) ∧
    (host.run calls).log.records =
      host.log.records ++
        ((host.turns calls).flatMap fun turn => turn.verdict.records turn.function) ∧
    ∀ number, ((host.run calls).frames number).returns =
      (host.frames number).returns ++
        ((host.turns calls).filter fun turn => turn.call.frame == number).flatMap fun turn =>
          turn.verdict.pushed := by
  have memory : ∀ turn ∈ host.turns calls, turn.call.binding.sink = .memory := by
    intro turn member
    exact shared turn.call (call_mem_of_mem_turns member)
  have accounted : ∀ turn ∈ host.turns calls, turn.AccountedBy turn.verdict := by
    intro turn member
    exact Binding.accounts_verdict (memory turn member) turn.frame turn.before.log
  refine ⟨?_, records_run accounted, returns_run accounted⟩
  intro turn member
  refine ⟨accounted turn member, ?_, ?_⟩
  · intro other otherAccounts
    exact Binding.eq_verdict_of_accounts otherAccounts
  · exact Binding.policyParity (memory turn member) turn.frame turn.before.log

/-- Calls on three frames, which hold a flag, nothing, and the other flag.  `toggle` turns a flag
round, `pair` gives two values for one flag and rejects the other, and `mute` gives nothing.  A
failure of each of the two functions is logged and raised. -/
theorem run_accounted_endings :
    let toggle (policy : FailurePolicy) : Binding :=
      ⟨"toggle", [.boolean], policy, .memory, default, do
        let flag : Bool ← NativeM.take .boolean
        return .value (.boolean !flag), by simp [ParamType.hasEmptyUnion]⟩
    let pair (policy : FailurePolicy) : Binding :=
      ⟨"pair", [.boolean], policy, .memory, default, do
        let flag : Bool ← NativeM.take .boolean
        if flag then return .values [.boolean flag, .nil] else throw ⟨"no pair"⟩,
        by simp [ParamType.hasEmptyUnion]⟩
    let mute : Binding := ⟨"mute", [], .raise, .memory, default, pure .none, by simp⟩
    let arguments (number : Nat) : List Value :=
      if number = 0 then [.boolean true] else if number = 1 then [.nil] else [.boolean false]
    let host : Host := ⟨fun number => .ofValues "" ⟨0⟩ (arguments number), .empty⟩
    let calls : List HostCall :=
      [⟨toggle .raise, 0⟩, ⟨toggle (.substituteAndLog (.boolean true)), 1⟩, ⟨toggle .raise, 1⟩,
        ⟨pair .raise, 0⟩, ⟨pair (.substituteAndLog .nil), 2⟩, ⟨pair .raise, 2⟩, ⟨mute, 2⟩]
    (∀ call ∈ calls, call.binding.sink = .memory) ∧
      (∀ turn ∈ host.turns calls, turn.AccountedBy turn.verdict) ∧
      (host.turns calls).map (fun turn => turn.outcome.result) =
        [.ok 1, .ok 1,
          .error (.badArgument .structuralMismatch "toggle" "boolean" 1 "nil"),
          .ok 2, .ok 1, .error (.rejected ⟨"no pair"⟩), .ok 0] ∧
      (host.turns calls).map (fun turn =>
          (turn.call.binding.noted turn.frame turn.before.log).2.length) =
        [1, 0, 0, 1, 1, 1, 1] ∧
      (host.run calls).log.records =
        [⟨"toggle", .structuralMismatch,
            "Bad argument @ 'toggle' [Expected boolean at argument 1, got nil]"⟩,
          ⟨"pair", .nativeRejection, "no pair"⟩] ∧
      ((host.run calls).frames 0).returns = [.boolean false, .boolean true, .nil] ∧
      ((host.run calls).frames 1).returns = [.boolean true] ∧
      ((host.run calls).frames 2).returns = [.nil] := by
  intro toggle pair mute arguments host calls
  have shared : ∀ call ∈ calls, call.binding.sink = .memory := by
    simp [calls, toggle, pair, mute]
  rcases run_accounted host calls shared with ⟨accounted, logged, pushed⟩
  exact ⟨shared, fun turn member => (accounted turn member).1, rfl, rfl, logged.trans rfl,
    (pushed 0).trans rfl, (pushed 1).trans rfl, (pushed 2).trans rfl⟩

end Host

end ScriptBridge
