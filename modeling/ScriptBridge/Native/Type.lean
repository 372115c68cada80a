import ScriptBridge.Arg.Basic

/-!
# Native types

The types of the native values that functions take and return, as data.  Every type has a
carrier, the Lean type of its values, so that conversions are functions from and to
values of the right type.  Most types can be declared as parameters; `paramType?` says as
which.
-/

namespace ScriptBridge

/-- The width of a native integer. -/
inductive IntegerWidth where
  | int16
  | uint16
  | int32
  | uint32
  | int64
deriving DecidableEq

namespace IntegerWidth

/-- The least integer of a width. -/
def low : IntegerWidth → Int
  | int16 => -32768
  | uint16 => 0
  | int32 => -2147483648
  | uint32 => 0
  | int64 => -9223372036854775808

/-- The largest integer of a width. -/
def high : IntegerWidth → Int
  | int16 => 32767
  | uint16 => 65535
  | int32 => 2147483647
  | uint32 => 4294967295
  | int64 => 9223372036854775807

/-- The name of a width in conversion errors. -/
def name : IntegerWidth → String
  | int16 => "i16"
  | uint16 => "u16"
  | int32 => "i32"
  | uint32 => "u32"
  | int64 => "i64"

/-- The kind of number that a parameter of this width is declared as; the widest integers
exceed what scripts can pass. -/
def numberKind? : IntegerWidth → Option NumberKind
  | int16 => some .int16
  | uint16 => some .uint16
  | int32 => some .int32
  | uint32 => some .uint32
  | int64 => none

/-- The integers of a width. -/
def Carrier (width : IntegerWidth) : Type :=
  { value : Int // width.low ≤ value ∧ value ≤ width.high }

end IntegerWidth

/-- The type of a native value. -/
inductive NativeType where
  | integer (width : IntegerWidth)
  /-- Single-precision numbers, kept as the numbers that they are. -/
  | single
  | double
  | text
  | bytes
  | boolean
  | handle
  | function
  | context
  /-- The one value that stands for an argument that is not there. -/
  | placeholder
  /-- Any argument, unconverted. -/
  | argument
  | option (inner : NativeType)
  | list (element : NativeType)
  | map (key : NativeType) (item : NativeType)
deriving DecidableEq

namespace NativeType

/-- The values of a native type.  A map is the list of its pairs, with every key once. -/
def Carrier : NativeType → Type
  | integer width => width.Carrier
  | single => Number
  | double => Number
  | text => String
  | bytes => ByteString
  | boolean => Bool
  | handle => Handle
  | function => FunctionRef
  | context => ContextId
  | placeholder => Unit
  | argument => Arg
  | option inner => Option inner.Carrier
  | list element => List element.Carrier
  | map key item => List (key.Carrier × item.Carrier)

/-- The parameter type that declares a native type. -/
def paramType? : NativeType → Option ParamType
  | integer width => width.numberKind?.map ParamType.number
  | single => some (.number .single)
  | double => some (.number .double)
  | text => some .string
  | bytes => some .string
  | boolean => some .boolean
  | handle => none
  | function => some .callback
  | context => some .context
  | placeholder => some .placeholder
  | argument => none
  | option inner => inner.paramType?.map ParamType.optional
  | list element => element.paramType?.map ParamType.sequence
  | map key item =>
      match key.paramType?, item.paramType? with
      | some key, some item => some (.mapping key item)
      | _, _ => none

/-! ## Keys of maps -/

/-- Can the values of this type be keys of a map?  Floating-point numbers, maps and the
placeholder cannot. -/
def canKey : NativeType → Bool
  | single | double | placeholder | map _ _ => false
  | option inner => inner.canKey
  | list element => element.canKey
  | _ => true

/-- Does every map in the type have keys that can be keys? -/
def isWellFormed : NativeType → Bool
  | option inner => inner.isWellFormed
  | list element => element.isWellFormed
  | map key item => key.canKey && key.isWellFormed && item.isWellFormed
  | _ => true

/-- Do two lists agree item by item? -/
def sameItems {Item : Type} (same : Item → Item → Bool) : List Item → List Item → Bool
  | [], [] => true
  | left :: lefts, right :: rights => same left right && sameItems same lefts rights
  | _, _ => false

/-- Are two items of a type with decidable equality equal? -/
def agree (Item : Type) [DecidableEq Item] (left right : Item) : Bool :=
  decide (left = right)

/-- Are two values the same key? -/
def sameKey : (type : NativeType) → type.Carrier → type.Carrier → Bool
  | integer _, left, right => left.val == right.val
  | single, left, right => Number.sameKey left right
  | double, left, right => Number.sameKey left right
  | text, left, right => agree String left right
  | bytes, left, right => agree ByteString left right
  | boolean, left, right => agree Bool left right
  | handle, left, right => agree Handle left right
  | function, left, right => agree FunctionRef left right
  | context, left, right => agree ContextId left right
  | placeholder, _, _ => true
  | argument, left, right => Arg.same left right
  | option _, none, none => true
  | option inner, some left, some right => inner.sameKey left right
  | option _, _, _ => false
  | list element, left, right => sameItems element.sameKey left right
  | map key item, left, right =>
      sameItems
        (fun (left right : key.Carrier × item.Carrier) =>
          key.sameKey left.1 right.1 && item.sameKey left.2 right.2)
        left right

/-- The pairs of a map after a key is given an item, in place of the one it has. -/
def insertPair (key item : NativeType) (newKey : key.Carrier) (newItem : item.Carrier) :
    List (key.Carrier × item.Carrier) → List (key.Carrier × item.Carrier)
  | [] => [(newKey, newItem)]
  | (oldKey, oldItem) :: rest =>
      if key.sameKey oldKey newKey then (oldKey, newItem) :: rest
      else (oldKey, oldItem) :: insertPair key item newKey newItem rest

end NativeType

end ScriptBridge
