import ScriptBridge.Binding.Basic

/-!
# Calls

A call reads one argument per parameter, up to the first failure.  Then the native
function runs, and its results go to the frame.  A failure, be it of an argument or of the
function, is raised or logged as the policy says.

The host runs the native function, in a monad of its own (`callIn`).  `call` is the call of a
host that does no more than that.
-/

namespace ScriptBridge

/-- What a call leaves behind. -/
structure CallOutcome where
  /-- The number of values put on the frame, or the failure that is raised. -/
  result : Except ArgumentError Nat
  frame : Frame
  log : FailureLog

namespace Binding

variable (binding : Binding)

/-- The name of the function in diagnostics: the one it is called by, or else its own. -/
def functionName (frame : Frame) : String :=
  if frame.function.isEmpty then binding.name else frame.function

/-- The place from which a call reads its arguments. -/
def callSite (frame : Frame) : CallSite :=
  ⟨binding.functionName frame, frame.context, binding.registries⟩

/-- Reads the arguments of a call. -/
def arguments (frame : Frame) : Except ArgumentError Args :=
  let (values, _, state) :=
    (binding.callSite frame).extractAll frame.slots binding.params 1 .clear
  match state.first with
  | some error => .error error
  | none => .ok (.ofList (binding.functionName frame) values)

variable {binding} in
theorem arguments_eq_error_iff {frame : Frame} {error : ArgumentError} :
    binding.arguments frame = .error error ↔
      ((binding.callSite frame).extractAll frame.slots binding.params 1 .clear).2.2.first =
        some error := by
  simp only [arguments]
  rcases (binding.callSite frame).extractAll frame.slots binding.params 1 .clear
    with ⟨values, cursor, ⟨_ | first⟩⟩ <;> simp

variable {binding} in
theorem arguments_eq_ok_iff {frame : Frame} {args : Args} :
    binding.arguments frame = .ok args ↔
      ((binding.callSite frame).extractAll frame.slots binding.params 1 .clear).2.2 = .clear ∧
        .ofList (binding.functionName frame)
          ((binding.callSite frame).extractAll frame.slots binding.params 1 .clear).1 = args := by
  simp only [arguments]
  rcases (binding.callSite frame).extractAll frame.slots binding.params 1 .clear
    with ⟨values, cursor, ⟨_ | first⟩⟩ <;> simp [FailureState.clear]

section

variable {m : Type → Type} [Monad m]

/-- Reads the arguments of a call and has the host run the function on them. -/
def invokeIn (run : Args → m (Except InvalidArgument Return)) (frame : Frame) :
    m (Except ArgumentError Return) :=
  match binding.arguments frame with
  | .error error => return .error error
  | .ok args => do
      match ← run args with
      | .ok result => return .ok result
      | .error signal => return .error (.rejected signal)

/-- Calls the function on a frame, with the failures that the host has logged so far. -/
def callIn (run : Args → m (Except InvalidArgument Return)) (frame : Frame) (log : FailureLog) :
    m CallOutcome := do
  match ← binding.invokeIn run frame with
  | .ok result => return ⟨.ok result.toList.length, frame.push result.toList, log⟩
  | .error error =>
      match binding.policy with
      | .raise => return ⟨.error error, frame, log⟩
      | .substituteAndLog fallback =>
          return ⟨.ok 1, frame.push [fallback],
            binding.sink.receive (.ofError (binding.functionName frame) error) log⟩

end

/-- Runs the function for its result and nothing else. -/
def runNative (args : Args) : Id (Except InvalidArgument Return) :=
  (binding.native args).1

/-- Reads the arguments of a call and runs the function on them. -/
def invoke (frame : Frame) : Except ArgumentError Return :=
  (binding.invokeIn binding.runNative frame).run

/-- Calls the function on a frame, in a host that does no more than run it. -/
def call (frame : Frame) (log : FailureLog) : CallOutcome :=
  (binding.callIn binding.runNative frame log).run

theorem invoke_eq (frame : Frame) :
    binding.invoke frame =
      match binding.arguments frame with
      | .error error => .error error
      | .ok args => (binding.native args).1.mapError .rejected := by
  simp only [invoke, invokeIn]
  cases binding.arguments frame with
  | error error => rfl
  | ok args =>
      simp only [runNative]
      cases (binding.native args).1 <;> rfl

/-- A call returns what the function returned, or does about a failure what its policy says. -/
theorem call_eq (frame : Frame) (log : FailureLog) :
    binding.call frame log =
      match binding.invoke frame with
      | .ok result => ⟨.ok result.toList.length, frame.push result.toList, log⟩
      | .error error =>
          match binding.policy with
          | .raise => ⟨.error error, frame, log⟩
          | .substituteAndLog fallback =>
              ⟨.ok 1, frame.push [fallback],
                binding.sink.receive (.ofError (binding.functionName frame) error) log⟩ := by
  simp only [call, callIn, invoke, Id.run_bind]
  cases (binding.invokeIn binding.runNative frame).run with
  | ok result => rfl
  | error error => cases binding.policy <;> rfl

end Binding

end ScriptBridge
