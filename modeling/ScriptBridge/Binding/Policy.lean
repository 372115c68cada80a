import ScriptBridge.Config.Settings
import ScriptBridge.Value

/-!
# Failure policies

What a binding does about a failed call, and where it puts the failures that it does not
raise.
-/

namespace ScriptBridge

/-- What a binding does about a failed call. -/
inductive FailurePolicy where
  /-- The call ends with the diagnostic. -/
  | raise
  /-- The diagnostic is logged, and the fallback is the only result of the call. -/
  | substituteAndLog (fallback : Value)

instance : Inhabited FailurePolicy := ⟨.raise⟩

/-- A fallback as a script value. -/
def FallbackValue.toValue : FallbackValue → Value
  | boolean flag => .boolean flag
  | number value => .number value
  | text content => .string (.ofString content)

/-- The policy that settings resolve to. -/
def FailurePolicy.ofResolved : ResolvedPolicy → FailurePolicy
  | .raise => raise
  | .log fallback => substituteAndLog fallback.toValue

/-- The logged failures that a host keeps, the oldest first. -/
structure FailureLog where
  records : List FailureRecord
deriving DecidableEq

namespace FailureLog

/-- Nothing logged. -/
def empty : FailureLog :=
  ⟨[]⟩

instance : Inhabited FailureLog := ⟨empty⟩

/-- Appends a record. -/
def append (log : FailureLog) (record : FailureRecord) : FailureLog :=
  ⟨log.records ++ [record]⟩

/-- The logged diagnostics, the oldest first. -/
def messages (log : FailureLog) : List String :=
  log.records.map FailureRecord.message

end FailureLog

/-- Where a binding puts the failures that it does not raise. -/
inductive Sink where
  /-- Into the log that the host keeps. -/
  | memory
  /-- Nowhere. -/
  | discard
  /-- To the terminal, as a report. -/
  | terminal
  /-- To the trace of the host. -/
  | trace
deriving DecidableEq

instance : Inhabited Sink := ⟨.trace⟩

/-- The host's log after a record is put into a sink. -/
def Sink.receive (sink : Sink) (record : FailureRecord) (log : FailureLog) : FailureLog :=
  match sink with
  | memory => log.append record
  | discard | terminal | trace => log

end ScriptBridge
