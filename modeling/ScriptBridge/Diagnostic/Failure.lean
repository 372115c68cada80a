/-!
# Failures of a call

A call fails because of an argument that does not have the declared shape, an argument of
the right shape whose value is rejected, or a native function that rejects what it was
given.  `ArgumentError` keeps the causes; its message is their one rendering, shown to
scripts as it is.  A call reports the first failure that it records (`FailureState`).
-/

namespace ScriptBridge

/-- What is wrong with an argument. -/
inductive FailureKind where
  /-- The slot's kind does not fit the declared type. -/
  | structuralMismatch
  /-- The kind fits and the value is rejected. -/
  | valueRejected
  /-- The native function itself rejects its arguments. -/
  | nativeRejection
deriving DecidableEq

/-- A native function's rejection; its message becomes the diagnostic unchanged. -/
structure InvalidArgument where
  message : String
deriving DecidableEq

/-- The failure of a call. -/
inductive ArgumentError where
  /-- The argument at a position is not what is expected there. -/
  | badArgument (kind : FailureKind) (function expected : String) (argument : Nat)
      (got : String)
  /-- The native function rejected its arguments. -/
  | rejected (signal : InvalidArgument)
deriving DecidableEq

/-- The wording of every bad argument. -/
def badArgumentMessage (function expected : String) (argument : Nat) (got : String) : String :=
  "Bad argument @ '" ++ function ++ "' [Expected " ++ expected ++ " at argument "
    ++ toString argument ++ ", got " ++ got ++ "]"

namespace ArgumentError

/-- What kind of failure this is. -/
def kind : ArgumentError → FailureKind
  | badArgument kind _ _ _ _ => kind
  | rejected _ => .nativeRejection

/-- The diagnostic. -/
def message : ArgumentError → String
  | badArgument _ function expected argument got =>
      badArgumentMessage function expected argument got
  | rejected signal => signal.message

/-- The name of the expected type; a native rejection expects nothing in particular. -/
def expected : ArgumentError → String
  | badArgument _ _ expected _ _ => expected
  | rejected _ => ""

/-- The position of the bad argument; a native rejection concerns the whole call. -/
def argument? : ArgumentError → Option Nat
  | badArgument _ _ _ argument _ => some argument
  | rejected _ => none

end ArgumentError

/-- The first failure of one call.  Once recorded it is neither replaced nor cleared. -/
structure FailureState where
  first : Option ArgumentError
deriving DecidableEq

namespace FailureState

/-- No failure yet. -/
def clear : FailureState :=
  ⟨none⟩

instance : Inhabited FailureState := ⟨clear⟩

/-- Has a failure been recorded? -/
def isSet (state : FailureState) : Bool :=
  state.first.isSome

/-- Records a failure, unless one is recorded already. -/
def record (state : FailureState) (error : ArgumentError) : FailureState :=
  match state.first with
  | some _ => state
  | none => ⟨some error⟩

/-- A recorded failure stays. -/
theorem record_of_isSet {state : FailureState} (error : ArgumentError)
    (alreadySet : state.isSet = true) : state.record error = state := by
  obtain ⟨_ | first⟩ := state
  · simp [isSet] at alreadySet
  · rfl

end FailureState

end ScriptBridge
