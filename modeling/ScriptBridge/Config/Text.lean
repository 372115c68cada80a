import ScriptBridge.Config.Settings
import ScriptBridge.Toml.Document

/-!
# The text of settings

Settings are written as a TOML document.  Every key has to be known, and every value has
to be of its kind; nothing is passed over.  A section may also be written as an array of
all its fields in order, and a keyword also as a table whose only key it is.
-/

namespace ScriptBridge

/-- The values that the fields of a section have. -/
abbrev FieldValues := String → Option Toml.Value

/-- The fields of a section: from a table that has no other keys, or from an array that
has them all.  What an array has beyond its fields is ignored. -/
def fieldValues? (names : List String) : Toml.Value → Option FieldValues
  | .table entries =>
      if entries.all fun entry => names.contains entry.1 then
        some fun name => entries.lookup name
      else none
  | .array items =>
      if names.length ≤ items.length then some fun name => (names.zip items).lookup name
      else none
  | _ => none

/-- Reads what may be missing.  The outer `none` stands for a value that is there and
cannot be read. -/
def readOptional {Setting : Type} (read? : Toml.Value → Option Setting) :
    Option Toml.Value → Option (Option Setting)
  | none => some none
  | some value => (read? value).map some

/-- Reads a keyword: a text, or a table of one key that has nothing in it. -/
def readKeyword? {Setting : Type} (keywords : List (String × Setting)) :
    Toml.Value → Option Setting
  | .string text => keywords.lookup text
  | .table [(name, .array [])] => keywords.lookup name
  | .table [(name, .table [])] => keywords.lookup name
  | _ => none

/-- Reads a text. -/
def readText? : Toml.Value → Option String
  | .string text => some text
  | _ => none

/-- The policies under their names in settings. -/
def PolicyKind.keywords : List (String × PolicyKind) :=
  [("raise", .raise), ("log", .log)]

/-- The colour settings under their names. -/
def ColorSetting.keywords : List (String × ColorSetting) :=
  [("always", .always), ("never", .never), ("auto", .auto)]

/-- The log formats under their names. -/
def LogFormat.keywords : List (String × LogFormat) :=
  [("compact", .compact), ("pretty", .pretty), ("json", .json)]

/-- Reads a fallback.  Integers are numbers like any other. -/
def FallbackValue.ofToml? : Toml.Value → Option FallbackValue
  | .boolean flag => some (.boolean flag)
  | .float value => some (.number value)
  | .integer value => some (.number (.ofInt value))
  | .string content => some (.text content)
  | _ => none

/-- Reads the defaults, or the entry of a function. -/
def PolicySettings.ofToml? (value : Toml.Value) : Option PolicySettings := do
  let field ← fieldValues? ["policy", "fallback"] value
  let policy ← readOptional (readKeyword? PolicyKind.keywords) (field "policy")
  let fallback ← readOptional FallbackValue.ofToml? (field "fallback")
  return ⟨policy, fallback⟩

/-- Reads the section of diagnostics. -/
def DiagnosticsSettings.ofToml? (value : Toml.Value) : Option DiagnosticsSettings := do
  let field ← fieldValues? ["color"] value
  let color ← readOptional (readKeyword? ColorSetting.keywords) (field "color")
  return ⟨color⟩

/-- Reads the section of logging. -/
def LoggingSettings.ofToml? (value : Toml.Value) : Option LoggingSettings := do
  let field ← fieldValues? ["level", "format"] value
  let level ← readOptional readText? (field "level")
  let format ← readOptional (readKeyword? LogFormat.keywords) (field "format")
  return ⟨level, format⟩

/-- Reads the entries of functions in turn. -/
def readFunctions? : List (String × Toml.Value) → Option (List (String × PolicySettings))
  | [] => some []
  | (name, value) :: rest => do
      let entry ← PolicySettings.ofToml? value
      let others ← readFunctions? rest
      return (name, entry) :: others

/-- Reads the section of functions, which is always a table. -/
def functionsOfToml? : Option Toml.Value → Option (Dictionary String PolicySettings)
  | none => some .empty
  | some (.table entries) => (readFunctions? entries).map Dictionary.ofList
  | some _ => none

namespace Settings

/-- The settings that a document has. -/
def ofToml? (entries : List (String × Toml.Value)) : Option Settings := do
  let field ← fieldValues? ["defaults", "diagnostics", "logging", "functions"] (.table entries)
  let defaults ← readOptional PolicySettings.ofToml? (field "defaults")
  let diagnostics ← readOptional DiagnosticsSettings.ofToml? (field "diagnostics")
  let logging ← readOptional LoggingSettings.ofToml? (field "logging")
  let functions ← functionsOfToml? (field "functions")
  return ⟨defaults, diagnostics, logging, functions⟩

/-- Reads a text as settings. -/
def parse? (text : String) : Option Settings :=
  (Toml.Document.parse? text).bind ofToml?

end Settings

end ScriptBridge
