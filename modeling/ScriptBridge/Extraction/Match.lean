import ScriptBridge.Frame
import ScriptBridge.ParamType

/-!
# Structural matching

Whether the kind of a slot fits a parameter type.  Matching looks at the kind alone, so
malformed contents are no matter of matching; they show when the slot is read.
-/

namespace ScriptBridge

namespace ParamType

mutual

/-- Does a slot of this kind at this position fit the type? -/
def accepts (kind : SlotKind) (position : Nat) : ParamType → Bool
  | number _ => kind == .number || kind == .string
  | string => kind == .number || kind == .string
  | boolean => kind == .boolean
  | enumeration _ => kind == .string
  | optional _ => true
  | sequence _ => kind == .table
  | mapping _ _ => kind == .table
  | union alternatives => anyAccepts kind position alternatives
  | handle _ => kind == .boxedHandle || kind == .lightHandle
  | callback => kind == .function
  | context => position == contextPosition
  | placeholder => kind == .absent

/-- Does a slot of this kind at this position fit any of the types? -/
def anyAccepts (kind : SlotKind) (position : Nat) : List ParamType → Bool
  | [] => false
  | type :: rest => type.accepts kind position || anyAccepts kind position rest

end

/-- Does the slot at a position fit the type? -/
def matchesAt (type : ParamType) (slots : Slots) (position : Nat) : Bool :=
  type.accepts (slots.kindAt position) position

/-- The first of several types that the slot at a position fits. -/
def firstMatch? (alternatives : List ParamType) (slots : Slots) (position : Nat) :
    Option Nat :=
  alternatives.findIdx? fun type => type.matchesAt slots position

/-- Is this a number type? -/
def isNumber : ParamType → Bool
  | number _ => true
  | _ => false

/-- Does the slot fit the type and, for a number type, also read as a number?  Where a
misfit is passed over in silence, text that is no number is passed over as well. -/
def coerciblyMatchesAt (type : ParamType) (slots : Slots) (position : Nat) : Bool :=
  type.matchesAt slots position && (!type.isNumber || (slots.numberAt position).isSome)

end ParamType

end ScriptBridge
