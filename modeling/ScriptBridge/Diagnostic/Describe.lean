import ScriptBridge.Registry.Basic

/-!
# Names in diagnostics

A diagnostic names the expected type and describes what the slot holds instead.  What a
script controls of a description is digits, and a short sample of a string that is shown
only if all of it is printable ASCII.
-/

namespace ScriptBridge

mutual

/-- The name shown for an expected type. -/
def ParamType.displayName (registries : Registries) : ParamType → String
  | .number _ => "number"
  | .string => "string"
  | .boolean => "boolean"
  | .enumeration id => (registries.enums.enumName? id).getD "enum"
  | .optional inner => inner.displayName registries
  | .sequence _ => "table"
  | .mapping _ _ => "table"
  | .union alternatives => "/".intercalate (ParamType.displayNames registries alternatives)
  | .handle classId => registries.classes.className classId
  | .callback => "function"
  | .context => ""
  | .placeholder => ""

/-- The names shown for several expected types. -/
def ParamType.displayNames (registries : Registries) : List ParamType → List String
  | [] => []
  | type :: rest => type.displayName registries :: ParamType.displayNames registries rest

end

/-- The longest sample of a string in a diagnostic, in bytes. -/
def sampleLength : Nat := 10

/-- The sample of a string: all of it, or its beginning and an ellipsis. -/
def sampleOf (bytes : List UInt8) : List UInt8 :=
  if bytes.length ≤ sampleLength then bytes
  else bytes.take (sampleLength - 3) ++ [0x2e, 0x2e, 0x2e]

/-- Is this byte a printable ASCII character? -/
def isPrintable (byte : UInt8) : Bool :=
  0x20 ≤ byte && byte ≤ 0x7e

/-- Describes a string by its sample, or by the bare word if the sample is not printable. -/
def describeString (string : ByteString) : String :=
  let sample := sampleOf string.bytes
  if sample.all isPrintable then
    "string (\"" ++ String.ofList (sample.map fun byte => Char.ofNat byte.toNat) ++ "\")"
  else "string"

/-- Describes what the slot at a position holds. -/
def Slots.describe (registries : Registries) (slots : Slots) (position : Nat) : String :=
  match slots.kindAt position with
  | .number =>
      match slots.numberAt position with
      | some number => "number (" ++ number.render ++ ")"
      | none => "number"
  | .string =>
      match slots.stringAt position with
      | some string => describeString string
      | none => "string"
  | .boolean => if slots.booleanAt position then "boolean (true)" else "boolean (false)"
  | .boxedHandle | .lightHandle =>
      match slots.handleAt position with
      | some handle => registries.classes.instanceName handle.resolve
      | none => "userdata"
  | kind => kind.name

end ScriptBridge
