import ScriptBridge.Diagnostic.Report
import ScriptBridge.Dictionary
import ScriptBridge.Number.Basic
import ScriptBridge.Text.Keyword

/-!
# Settings of a host

How a host's bindings react to bad arguments, and how the diagnostics are shown: sections
of defaults, and an entry per function name.  A later layer of settings replaces whole
sections and whole entries of an earlier one.  `policyFor` is the policy that a function
ends up with.
-/

namespace ScriptBridge

/-- How a bound function reports bad arguments. -/
inductive PolicyKind where
  /-- The script's call ends with the diagnostic. -/
  | raise
  /-- The diagnostic is logged and the call gives the fallback. -/
  | log
deriving DecidableEq

/-- Reads the name of a policy as the environment gives it: without regard to case and
surrounding blanks, each policy under two names. -/
def PolicyKind.parse? (text : String) : Option PolicyKind :=
  let word := Text.keyword text
  if word = "raise" ∨ word = "error" then some .raise
  else if word = "log" ∨ word = "substitute" then some .log
  else none

/-- What a logged call gives instead of its result. -/
inductive FallbackValue where
  | boolean (flag : Bool)
  | number (number : Number)
  | text (text : String)
deriving DecidableEq

instance : Inhabited FallbackValue := ⟨.boolean false⟩

/-- The form of log lines. -/
inductive LogFormat where
  | compact
  | pretty
  | json
deriving DecidableEq

instance : Inhabited LogFormat := ⟨.compact⟩

/-- A policy and a fallback, each perhaps left open.  Both the defaults and the entry of
a function have this form. -/
structure PolicySettings where
  policy : Option PolicyKind
  fallback : Option FallbackValue
deriving DecidableEq

/-- Nothing set. -/
def PolicySettings.open : PolicySettings :=
  ⟨none, none⟩

/-- How diagnostics are shown. -/
structure DiagnosticsSettings where
  color : Option ColorSetting
deriving DecidableEq

/-- What is logged, and in which form. -/
structure LoggingSettings where
  level : Option String
  format : Option LogFormat
deriving DecidableEq

/-- Nothing set. -/
def LoggingSettings.open : LoggingSettings :=
  ⟨none, none⟩

/-- All settings: the sections, and an entry per function name. -/
structure Settings where
  defaults : Option PolicySettings
  diagnostics : Option DiagnosticsSettings
  logging : Option LoggingSettings
  functions : Dictionary String PolicySettings
deriving DecidableEq

/-- The policy of one function after defaults and entries are taken together. -/
inductive ResolvedPolicy where
  | raise
  | log (fallback : FallbackValue)
deriving DecidableEq

/-- A setting whose value makes no sense. -/
inductive InvalidSetting where
  /-- The level is no log level. -/
  | level (field value : String)
  /-- The environment's policy is none. -/
  | policy (field value : String)
  /-- A function entry has the empty name. -/
  | emptyFunctionName
  /-- A function raises and still has a fallback. -/
  | uselessFallback (function : String)
deriving DecidableEq

namespace InvalidSetting

/-- The setting that is wrong. -/
def field : InvalidSetting → String
  | level field _ => field
  | policy field _ => field
  | emptyFunctionName => "functions"
  | uselessFallback function => "functions." ++ function ++ ".fallback"

/-- What is wrong with it. -/
def reason : InvalidSetting → String
  | level _ value =>
      "must be one of trace, debug, info, warn, error, off, got '" ++ value ++ "'"
  | policy _ value => "must be 'raise' or 'log', got '" ++ value ++ "'"
  | emptyFunctionName => "function name must not be empty"
  | uselessFallback _ => "a fallback has no effect with the 'raise' policy"

/-- The wording of an invalid setting. -/
def message (invalid : InvalidSetting) : String :=
  "Invalid value for '" ++ invalid.field ++ "': " ++ invalid.reason

end InvalidSetting

/-- The names of the log levels. -/
def logLevels : List String :=
  ["trace", "debug", "info", "warn", "error", "off"]

/-- Checks the name of a log level, which is read without regard to case. -/
def checkLevel (field value : String) : Except InvalidSetting Unit :=
  if Text.lower value ∈ logLevels then .ok () else .error (.level field value)

/-- Checks the entry of a function. -/
def checkFunction (name : String) (entry : PolicySettings) : Except InvalidSetting Unit :=
  if name.isEmpty then .error .emptyFunctionName
  else if entry.policy = some .raise ∧ entry.fallback.isSome then
    .error (.uselessFallback name)
  else .ok ()

/-- Checks the entries of all functions in turn. -/
def checkFunctions : List (String × PolicySettings) → Except InvalidSetting Unit
  | [] => .ok ()
  | (name, entry) :: rest =>
      match checkFunction name entry with
      | .ok () => checkFunctions rest
      | .error error => .error error

namespace Settings

/-- Nothing set. -/
def empty : Settings :=
  ⟨none, none, none, .empty⟩

instance : Inhabited Settings := ⟨empty⟩

/-- The log level that is set. -/
def level? (settings : Settings) : Option String :=
  settings.logging.bind LoggingSettings.level

/-- The form of log lines. -/
def format (settings : Settings) : LogFormat :=
  (settings.logging.bind LoggingSettings.format).getD default

/-- Checks the log level first and then the functions. -/
def validate (settings : Settings) : Except InvalidSetting Unit :=
  match settings.level? with
  | none => checkFunctions settings.functions.entries
  | some level =>
      match checkLevel "logging.level" level with
      | .ok () => checkFunctions settings.functions.entries
      | .error error => .error error

/-- The policy of a function: what its own entry says, then what the defaults say, and to
raise if neither says anything.  A fallback that nobody gives is false. -/
def policyFor (settings : Settings) (function : String) : ResolvedPolicy :=
  let defaults := settings.defaults.getD .open
  let entry := (settings.functions.find? function).getD .open
  match (entry.policy.or defaults.policy).getD .raise with
  | .raise => .raise
  | .log => .log ((entry.fallback.or defaults.fallback).getD default)

/-- When diagnostics are coloured. -/
def color (settings : Settings) : ColorSetting :=
  (settings.diagnostics.bind DiagnosticsSettings.color).getD default

/-- Puts a later layer over these settings: its sections and its entries take the place
of those that are here. -/
def merge (settings layer : Settings) : Settings where
  defaults := layer.defaults.or settings.defaults
  diagnostics := layer.diagnostics.or settings.diagnostics
  logging := layer.logging.or settings.logging
  functions := settings.functions.insertAll layer.functions.entries

/-- Sets the default policy. -/
def withDefaultPolicy (settings : Settings) (kind : PolicyKind) : Settings :=
  { settings with
    defaults := some { settings.defaults.getD .open with policy := some kind } }

/-- Sets the log level. -/
def withLevel (settings : Settings) (level : String) : Settings :=
  { settings with
    logging := some { settings.logging.getD .open with level := some level } }

end Settings

end ScriptBridge
