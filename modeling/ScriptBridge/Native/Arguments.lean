import ScriptBridge.Diagnostic.Failure
import ScriptBridge.Native.Conversion

/-!
# Arguments and results of a native function

A native function takes its arguments one after the other and converts each into the type
that it wants.  An argument that is taken leaves a placeholder behind, and the next one
comes up also after a conversion that failed.
-/

namespace ScriptBridge

/-- The arguments of one call. -/
structure Args where
  /-- The function's name in diagnostics. -/
  function : String
  values : List Arg
  /-- The index of the next argument to take. -/
  next : Nat

/-- Work on the arguments of a call that a rejection ends. -/
abbrev NativeM := ExceptT InvalidArgument (StateM Args)

namespace Args

/-- Arguments of which none is taken. -/
def ofList (function : String) (values : List Arg) : Args :=
  ⟨function, values, 0⟩

/-- The number of arguments, taken ones included. -/
def length (args : Args) : Nat :=
  args.values.length

/-- Were there no arguments? -/
def isEmpty (args : Args) : Bool :=
  args.values.isEmpty

/-- The argument at an index, counted from zero. -/
def get? (args : Args) (index : Nat) : Option Arg :=
  args.values[index]?

/-- The rejection when no argument is left. -/
def exhausted (args : Args) : InvalidArgument :=
  ⟨"Bad argument @ '" ++ args.function ++ "' [No parameter " ++ toString (args.next + 1) ++ "]"⟩

/-- The rejection when the next argument cannot be converted. -/
def unconverted (args : Args) (error : ConversionError) : InvalidArgument :=
  ⟨"Bad argument @ '" ++ args.function ++ "' [Parameter " ++ toString (args.next + 1) ++ ": "
    ++ error.message ++ "]"⟩

/-- The arguments after the next one is taken. -/
def advance (args : Args) : Args :=
  { args with values := args.values.set args.next .placeholder, next := args.next + 1 }

/-- Takes the next argument as a value of a native type. -/
def takeNext (args : Args) (type : NativeType) :
    Except InvalidArgument type.Carrier × Args :=
  match args.get? args.next with
  | none => (.error args.exhausted, args)
  | some arg =>
      match type.ofArg arg with
      | .ok value => (.ok value, args.advance)
      | .error error => (.error (args.unconverted error), args.advance)

/-- A native function's rejection in the wording of every bad argument. -/
def badArgument (args : Args) (expected : String) (argument : Nat) (got : String) :
    InvalidArgument :=
  ⟨badArgumentMessage args.function expected argument got⟩

end Args

/-- Takes the next argument as a value of a native type. -/
def NativeM.take (type : NativeType) : NativeM type.Carrier :=
  fun args => args.takeNext type

/-- What a native function hands back. -/
inductive Return where
  /-- Nothing. -/
  | none
  /-- One value. -/
  | value (result : Value)
  /-- Any number of values, in order. -/
  | values (results : List Value)

/-- The values that a result puts on the frame, in order. -/
def Return.toList : Return → List Value
  | .none => []
  | .value result => [result]
  | .values results => results

/-- The type of a native function's result. -/
inductive ReturnType where
  | unit
  | single (type : NativeType)
  | tuple (types : List NativeType)

namespace ReturnType

/-- Converts arguments into script values of the given types, one by one from the left.
The outer `none` stands for types that no script value has, or for a wrong number of
arguments. -/
def convertAll : List NativeType → List Arg → Option (Except ConversionError (List Value))
  | [], [] => some (.ok [])
  | type :: types, arg :: args =>
      match type.toValue?, convertAll types args with
      | some convert, some rest =>
          some ((type.ofArg arg).bind fun value => rest.map (convert value :: ·))
      | _, _ => Option.none
  | _, _ => Option.none

/-- Converts arguments into native values of a result type, and those into a result.  The
outer `none` stands for a type that is no result, or for a wrong number of arguments. -/
def returnOf? : ReturnType → List Arg → Option (Except ConversionError Return)
  | unit, [] => some (.ok .none)
  | single type, [arg] =>
      type.toValue?.map fun convert =>
        (type.ofArg arg).map fun value => .value (convert value)
  | tuple types, args => (convertAll types args).map fun converted => converted.map Return.values
  | _, _ => Option.none

end ReturnType

end ScriptBridge
