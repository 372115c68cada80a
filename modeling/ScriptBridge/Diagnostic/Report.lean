import ScriptBridge.Diagnostic.Failure

/-!
# Reports of logged failures

A failure that a binding logs instead of raising becomes a record, and a record is
reported in three lines, plain or with terminal colours.
-/

namespace ScriptBridge

/-- A logged failure. -/
structure FailureRecord where
  function : String
  kind : FailureKind
  message : String
deriving DecidableEq

/-- The record of a failed call of a function. -/
def FailureRecord.ofError (function : String) (error : ArgumentError) : FailureRecord :=
  ⟨function, error.kind, error.message⟩

/-- The code of a failure's kind in a report. -/
def FailureKind.code : FailureKind → String
  | .structuralMismatch => "type-mismatch"
  | .valueRejected => "bad-value"
  | .nativeRejection => "invalid-argument"

/-! ## Colours -/

/-- When reports are coloured. -/
inductive ColorSetting where
  | always
  | never
  /-- If the output is a terminal. -/
  | auto
deriving DecidableEq

instance : Inhabited ColorSetting := ⟨.auto⟩

/-- The setting that takes effect: a user who sets the variable against colours, to
whatever value, gets none. -/
def ColorSetting.effective (setting : ColorSetting) (noColor : Option String) : ColorSetting :=
  if noColor.isSome then .never else setting

/-- How a piece of a report is set off. -/
inductive Emphasis where
  | none
  | bold
  | boldYellow
  | boldCyan
deriving DecidableEq

/-- A control sequence that sets an attribute of the terminal. -/
def terminalAttribute (code : String) : String :=
  "\x1b[" ++ code ++ "m"

/-- The control sequences before a piece: first all attributes are cleared. -/
def Emphasis.opening : Emphasis → String
  | .none => ""
  | .bold => terminalAttribute "0" ++ terminalAttribute "1"
  | .boldYellow => terminalAttribute "0" ++ terminalAttribute "1" ++ terminalAttribute "33"
  | .boldCyan => terminalAttribute "0" ++ terminalAttribute "1" ++ terminalAttribute "36"

/-- The control sequence after a piece. -/
def Emphasis.closing : Emphasis → String
  | .none => ""
  | _ => terminalAttribute "0"

namespace FailureRecord

/-- The pieces of a report. -/
def pieces (record : FailureRecord) : List (Emphasis × String) :=
  [(.boldYellow, "warning[" ++ record.kind.code ++ "]"),
   (.bold, ": " ++ record.message),
   (.none, "\n"),
   (.boldCyan, "  --> "),
   (.none, record.function ++ "\n"),
   (.boldCyan, "   = "),
   (.bold, "note"),
   (.none, ": fallback value returned\n")]

/-- The report without colours. -/
def plainReport (record : FailureRecord) : String :=
  String.join (record.pieces.map Prod.snd)

/-- The report with terminal colours. -/
def colorReport (record : FailureRecord) : String :=
  String.join (record.pieces.map fun piece =>
    piece.1.opening ++ piece.2 ++ piece.1.closing)

end FailureRecord

end ScriptBridge
