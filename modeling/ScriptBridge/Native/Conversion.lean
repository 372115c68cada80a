import ScriptBridge.Native.Type

/-!
# Conversion between arguments, native values and script values

`NativeType.ofArg` converts an argument into a value of a native type, and
`NativeType.toValue?` is the conversion of a type's values into script values, for the
types that have one.
-/

namespace ScriptBridge

/-- Why an argument is no value of a native type. -/
inductive ConversionError where
  /-- The argument has another shape. -/
  | typeMismatch (expected found : String)
  /-- An element of a list has another shape; elements count from zero. -/
  | elementMismatch (index : Nat) (expected found : String)
  /-- The integer does not fit the width. -/
  | outOfRange (value : Int) (width : IntegerWidth)
deriving DecidableEq

namespace ConversionError

/-- The wording of a conversion error. -/
def message : ConversionError → String
  | typeMismatch expected found => "expected " ++ expected ++ ", found " ++ found
  | elementMismatch index expected found =>
      "element " ++ toString index ++ ": expected " ++ expected ++ ", found " ++ found
  | outOfRange value width => toString value ++ " does not fit in " ++ width.name

/-- The error of a list whose element at an index fails: a mismatch is told with the
innermost index, all else as it is. -/
def atIndex (index : Nat) : ConversionError → ConversionError
  | typeMismatch expected found => elementMismatch index expected found
  | error => error

end ConversionError

/-- The error of an argument that has another shape than expected. -/
def mismatch {Result : Type} (expected : String) (found : Arg) : Except ConversionError Result :=
  .error (.typeMismatch expected found.kindName)

/-- Converts the elements of a list, counting on from an index, up to the first error. -/
def convertItems {Result : Type} (convert : Arg → Except ConversionError Result) :
    Nat → List Arg → Except ConversionError (List Result)
  | _, [] => .ok []
  | index, item :: rest =>
      match convert item with
      | .error error => .error (error.atIndex index)
      | .ok result => (convertItems convert (index + 1) rest).map (result :: ·)

/-- Converts the pairs of a map in turn, the key of a pair before its item, up to the
first error.  Of two pairs with one key the later item stays. -/
def convertPairs {key item : NativeType}
    (convertKey : Arg → Except ConversionError key.Carrier)
    (convertItem : Arg → Except ConversionError item.Carrier) :
    List (Arg × Arg) → List (key.Carrier × item.Carrier) →
      Except ConversionError (List (key.Carrier × item.Carrier))
  | [], done => .ok done
  | (keyArg, itemArg) :: rest, done =>
      match convertKey keyArg with
      | .error error => .error error
      | .ok newKey =>
          match convertItem itemArg with
          | .error error => .error error
          | .ok newItem =>
              convertPairs convertKey convertItem rest
                (NativeType.insertPair key item newKey newItem done)

/-- Converts an integer into one of a width. -/
def IntegerWidth.ofInt (width : IntegerWidth) (value : Int) :
    Except ConversionError width.Carrier :=
  if fits : width.low ≤ value ∧ value ≤ width.high then .ok ⟨value, fits⟩
  else .error (.outOfRange value width)

namespace NativeType

/-- Converts an argument into a value of a native type. -/
def ofArg : (type : NativeType) → Arg → Except ConversionError type.Carrier
  | integer width, arg =>
      match arg.integer? with
      | some value => width.ofInt value
      | none => mismatch "integer" arg
  | single, arg =>
      match arg.number? with
      | some number => .ok number.toSingle
      | none => mismatch "number" arg
  | double, arg =>
      match arg.number? with
      | some number => .ok number
      | none => mismatch "number" arg
  | text, .string content => .ok content.toStringLossy
  | text, arg => mismatch "string" arg
  | bytes, .string content => .ok content
  | bytes, arg => mismatch "string" arg
  | boolean, arg =>
      match arg.boolean? with
      | some flag => .ok flag
      | none => mismatch "boolean" arg
  | handle, .handle (some object) => .ok object
  | handle, arg => mismatch "handle" arg
  | function, .callback (some reference) => .ok reference
  | function, arg => mismatch "function" arg
  | context, .context id => .ok id
  | context, arg => mismatch "context" arg
  | placeholder, .placeholder => .ok ()
  | placeholder, arg => mismatch "placeholder" arg
  | argument, arg => .ok arg
  | option _, .optional none => .ok none
  | option inner, .optional (some arg) => (inner.ofArg arg).map some
  | option inner, arg => (inner.ofArg arg).map some
  | list element, .sequence items => convertItems element.ofArg 0 items
  | list _, arg => mismatch "sequence" arg
  | map key item, .mapping pairs => convertPairs key.ofArg item.ofArg pairs []
  | map _ _, arg => mismatch "mapping" arg

/-- The conversion of a type's values into script values.  Contexts, placeholders and
unconverted arguments have none.  The table of a map lists its entries by key. -/
def toValue? : (type : NativeType) → Option (type.Carrier → Value)
  | integer _ => some fun value => .number (.ofInt value.val)
  | single => some Value.number
  | double => some Value.number
  | text => some fun content => .string (.ofString content)
  | bytes => some Value.string
  | boolean => some Value.boolean
  | handle => some Value.lightHandle
  | function => some Value.function
  | context => none
  | placeholder => none
  | argument => none
  | option inner => inner.toValue?.map fun convert (value : Option inner.Carrier) =>
      match value with
      | none => .nil
      | some value => convert value
  | list element => element.toValue?.map fun convert (items : List element.Carrier) =>
      .sequence (items.map convert)
  | map key item =>
      match key.toValue?, item.toValue? with
      | some convertKey, some convertItem =>
          some fun (pairs : List (key.Carrier × item.Carrier)) =>
            .table (Value.sortEntries
              (pairs.map fun pair => (convertKey pair.1, convertItem pair.2)))
      | _, _ => none

end NativeType

end ScriptBridge
