import ScriptBridge.Number.Basic

/-!
# Parameter types

The shapes of arguments that a native function can declare.  A signature is a list of
them.  Types are finite trees; `Union` alone has any number of children.
-/

namespace ScriptBridge

/-- The registry key of a native class. -/
structure ClassId where
  name : String
deriving DecidableEq, Hashable

/-- The registry key of an enumeration. -/
structure EnumId where
  name : String
deriving DecidableEq, Hashable

/-- The native representation of a number. -/
inductive NumberKind where
  | int16
  | uint16
  | int32
  | uint32
  | single
  | double
deriving DecidableEq

namespace NumberKind

/-- The inclusive bounds of an integer kind; the floating-point kinds have none. -/
def integerBounds? : NumberKind → Option (Int × Int)
  | .int16 => some (-32768, 32767)
  | .uint16 => some (0, 65535)
  | .int32 => some (-2147483648, 2147483647)
  | .uint32 => some (0, 4294967295)
  | .single => none
  | .double => none

/-- Is this an integer kind? -/
def isInteger (kind : NumberKind) : Bool :=
  kind.integerBounds?.isSome

/-- The bounds of a kind as numbers; a floating-point kind ends with the finite numbers. -/
def bounds (kind : NumberKind) : Number × Number :=
  match kind.integerBounds? with
  | some (low, high) => (.ofInt low, .ofInt high)
  | none => (.least, .greatest)

end NumberKind

/-- The shape of one formal parameter. -/
inductive ParamType where
  | number (kind : NumberKind)
  | string
  | boolean
  /-- A value of an enumeration, passed as the name of its variant. -/
  | enumeration (id : EnumId)
  /-- An argument that may be missing.  If the inner type does not fit, no slot is used. -/
  | optional (inner : ParamType)
  /-- A table read as a list. -/
  | sequence (element : ParamType)
  /-- A table read as a map. -/
  | mapping (key : ParamType) (item : ParamType)
  /-- One of several shapes: the first that fits, in the order of declaration. -/
  | union (alternatives : List ParamType)
  /-- A native object of a class or of a class derived from it. -/
  | handle (classId : ClassId)
  /-- A reference to a script function. -/
  | callback
  /-- The execution context of the call; it uses no slot. -/
  | context
  /-- Stands for an argument that is not there. -/
  | placeholder

namespace ParamType

instance : Inhabited ParamType := ⟨placeholder⟩

mutual

/-- Does a union without alternatives occur anywhere in the type? -/
def hasEmptyUnion : ParamType → Bool
  | optional inner => inner.hasEmptyUnion
  | sequence element => element.hasEmptyUnion
  | mapping key item => key.hasEmptyUnion || item.hasEmptyUnion
  | union alternatives => alternatives.isEmpty || anyHasEmptyUnion alternatives
  | _ => false

/-- Does a union without alternatives occur in any of the types? -/
def anyHasEmptyUnion : List ParamType → Bool
  | [] => false
  | type :: rest => type.hasEmptyUnion || anyHasEmptyUnion rest

end

end ParamType

end ScriptBridge
