import ScriptBridge.Number.Text

/-!
# Script values

The values that a script interpreter puts into the slots of a call frame: immediate
values, strings of bytes, tables as lists of entries in enumeration order, references to
functions and coroutines that the interpreter owns, and handles of native objects, which
come boxed or light.
-/

namespace ScriptBridge

/-- The address of a native object that scripts hold as an untyped token. -/
structure Handle where
  address : UInt64
deriving DecidableEq, Hashable

/-- A reference to a script function, owned by the interpreter. -/
structure FunctionRef where
  index : UInt32
deriving DecidableEq, Hashable

/-- A reference to a script coroutine, owned by the interpreter. -/
structure CoroutineRef where
  index : UInt32
deriving DecidableEq

/-- The kind of what a slot holds. -/
inductive SlotKind where
  /-- The position is past the last argument. -/
  | absent
  | nil
  | boolean
  | number
  | string
  | table
  | function
  | coroutine
  | boxedHandle
  | lightHandle
deriving DecidableEq

/-- The interpreter's name for a kind.  Scripts cannot tell the two handle kinds apart. -/
def SlotKind.name : SlotKind → String
  | .absent => "none"
  | .nil => "nil"
  | .boolean => "boolean"
  | .number => "number"
  | .string => "string"
  | .table => "table"
  | .function => "function"
  | .coroutine => "coroutine"
  | .boxedHandle => "userdata"
  | .lightHandle => "userdata"

/-- A script value. -/
inductive Value where
  | nil
  | boolean (flag : Bool)
  | number (number : Number)
  | string (bytes : ByteString)
  /-- A table: its entries in enumeration order, keys possibly repeated. -/
  | table (entries : List (Value × Value))
  | function (reference : FunctionRef)
  | coroutine (reference : CoroutineRef)
  | boxedHandle (handle : Handle)
  | lightHandle (handle : Handle)

namespace Value

instance : Inhabited Value := ⟨nil⟩

/-- The entries of a list-like table whose keys count up from the given position. -/
def sequenceFrom (position : Nat) : List Value → List (Value × Value)
  | [] => []
  | item :: rest => (number (.ofNat position), item) :: sequenceFrom (position + 1) rest

/-- A list-like table: the keys count from one. -/
def sequence (items : List Value) : Value :=
  table (sequenceFrom 1 items)

/-- The kind of a value. -/
def kind : Value → SlotKind
  | nil => .nil
  | boolean _ => .boolean
  | number _ => .number
  | string _ => .string
  | table _ => .table
  | function _ => .function
  | coroutine _ => .coroutine
  | boxedHandle _ => .boxedHandle
  | lightHandle _ => .lightHandle

/-- A value as a number; strings are read as numbers. -/
def toNumber? : Value → Option Number
  | number value => some value
  | string text => Number.parse? text
  | _ => none

/-- A value as a string; numbers are written as strings. -/
def toString? : Value → Option ByteString
  | string text => some text
  | number value => some (.ofString value.render)
  | _ => none

/-- Everything but nil and false counts as true. -/
def truthy : Value → Bool
  | nil => false
  | boolean flag => flag
  | _ => true

/-- The entries of a table; other values have none. -/
def entries : Value → List (Value × Value)
  | table entries => entries
  | _ => []

/-! ## Equality

Values are compared as scripts write them down: numbers by value, so that the undefined
number differs from itself and the two zeros agree, and tables entry by entry in
enumeration order.  This is no equivalence, so it is not an instance of `DecidableEq`. -/

mutual

/-- Are two values equal? -/
def equal : Value → Value → Bool
  | nil, nil => true
  | boolean left, boolean right => left == right
  | number left, number right => left.numericEq right
  | string left, string right => left == right
  | table left, table right => equalEntries left right
  | function left, function right => left == right
  | coroutine left, coroutine right => left == right
  | boxedHandle left, boxedHandle right => left == right
  | lightHandle left, lightHandle right => left == right
  | _, _ => false

/-- Are two lists of entries equal, entry by entry? -/
def equalEntries : List (Value × Value) → List (Value × Value) → Bool
  | [], [] => true
  | (leftKey, left) :: lefts, (rightKey, right) :: rights =>
      equal leftKey rightKey && equal left right && equalEntries lefts rights
  | _, _ => false

end

/-! ## Listings in key order

A table made from an unordered map lists its entries by key: numbers in ascending order,
strings by bytes, and false before true. -/

/-- Is the left key at most the right one?  Keys of other kinds keep the order they have. -/
def keyAtMost : Value → Value → Bool
  | number left, number right => left.atMost right
  | string left, string right => compare left right != .gt
  | boolean left, boolean right => !left || right
  | _, _ => true

/-- The entries in the order of their keys. -/
def sortEntries (entries : List (Value × Value)) : List (Value × Value) :=
  entries.mergeSort fun left right => keyAtMost left.1 right.1

end Value

end ScriptBridge
