import ScriptBridge.Value

/-!
# Call frames

A call frame is the channel of arguments between the interpreter and a native function.
Its positions count from one; position zero is reserved for the execution context.

`Slots` is the read side: what an interpreter answers about the slot at a position.
Every answer depends on the position alone.  `Slots.ofValues` answers for a list of
values, which is also how the entries of a table are read, and `Slots.ofSlots` for
whatever an interpreter may answer.
-/

namespace ScriptBridge

/-- The interpreter state that a call runs in. -/
structure ContextId where
  id : UInt64
deriving DecidableEq, Hashable

instance : Inhabited ContextId := ⟨⟨0⟩⟩

/-- A native object's handle as a slot holds it. -/
inductive HandleRef where
  /-- The slot holds the handle itself. -/
  | light (handle : Handle)
  /-- The slot holds a box with the handle. -/
  | boxed (handle : Handle)
deriving DecidableEq

/-- The handle behind either encoding. -/
def HandleRef.resolve : HandleRef → Handle
  | .light handle => handle
  | .boxed handle => handle

/-- The reserved position of the execution context. -/
def contextPosition : Nat := 0

/-- Read access to argument slots.  The answers to one position need not fit together:
an interpreter may report a kind and still have nothing to read. -/
structure Slots where
  /-- The kind of the slot, `absent` past the last argument. -/
  kindAt : Nat → SlotKind
  /-- The slot as a number, strings read as numbers. -/
  numberAt : Nat → Option Number
  /-- The slot as a string, numbers written as strings. -/
  stringAt : Nat → Option ByteString
  booleanAt : Nat → Bool
  /-- The entries of the table in the slot, in its enumeration order. -/
  entriesAt : Nat → List (Value × Value)
  handleAt : Nat → Option HandleRef
  functionAt : Nat → Option FunctionRef

/-- All answers about one slot, for an interpreter that knows them in advance. -/
structure Slot where
  kind : SlotKind
  number : Option Number
  string : Option ByteString
  boolean : Bool
  entries : List (Value × Value)
  handle : Option HandleRef
  function : Option FunctionRef

/-- The slot past the last argument, which has nothing to read. -/
def Slot.absent : Slot :=
  ⟨.absent, none, none, false, [], none, none⟩

/-- The handle that a value holds. -/
def Value.handle? : Value → Option HandleRef
  | .lightHandle handle => some (.light handle)
  | .boxedHandle handle => some (.boxed handle)
  | _ => none

/-- The function that a value refers to. -/
def Value.function? : Value → Option FunctionRef
  | .function reference => some reference
  | _ => none

namespace Slots

/-- The value at a position of a list of values; the reserved position has none. -/
def valueAt? (values : List Value) : Nat → Option Value
  | 0 => none
  | index + 1 => values[index]?

/-- The slots that hold a list of values from position one on. -/
def ofValues (values : List Value) : Slots where
  kindAt position := ((valueAt? values position).map Value.kind).getD .absent
  numberAt position := (valueAt? values position).bind Value.toNumber?
  stringAt position := (valueAt? values position).bind Value.toString?
  booleanAt position := ((valueAt? values position).map Value.truthy).getD false
  entriesAt position := ((valueAt? values position).map Value.entries).getD []
  handleAt position := (valueAt? values position).bind Value.handle?
  functionAt position := (valueAt? values position).bind Value.function?

/-- The slots that answer as the given ones do from position one on, and as slots that
are absent everywhere else. -/
def ofSlots (slots : List Slot) : Slots :=
  let slotAt : Nat → Slot
    | 0 => .absent
    | index + 1 => (slots[index]?).getD .absent
  { kindAt := fun position => (slotAt position).kind
    numberAt := fun position => (slotAt position).number
    stringAt := fun position => (slotAt position).string
    booleanAt := fun position => (slotAt position).boolean
    entriesAt := fun position => (slotAt position).entries
    handleAt := fun position => (slotAt position).handle
    functionAt := fun position => (slotAt position).function }

/-- Two frames that answer alike at a position. -/
structure AgreeAt (left right : Slots) (position : Nat) : Prop where
  kind : left.kindAt position = right.kindAt position
  number : left.numberAt position = right.numberAt position
  string : left.stringAt position = right.stringAt position
  boolean : left.booleanAt position = right.booleanAt position
  entries : left.entriesAt position = right.entriesAt position
  handle : left.handleAt position = right.handleAt position
  function : left.functionAt position = right.functionAt position

end Slots

/-- A whole call frame: the slots, the name under which the function was called, the
context, and the values returned so far. -/
structure Frame where
  /-- The display name of the called function; an empty one leaves the name to the binding. -/
  function : String
  context : ContextId
  slots : Slots
  returns : List Value

namespace Frame

/-- A frame over a list of argument values, with nothing returned yet. -/
def ofValues (function : String) (context : ContextId) (arguments : List Value) : Frame :=
  ⟨function, context, .ofValues arguments, []⟩

/-- Appends values to the returns, in order. -/
def push (frame : Frame) (values : List Value) : Frame :=
  { frame with returns := frame.returns ++ values }

end Frame

end ScriptBridge
