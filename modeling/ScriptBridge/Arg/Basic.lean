import ScriptBridge.Frame
import ScriptBridge.ParamType

/-!
# Arguments

An argument is what reading one parameter produces.  Arguments key mappings, so they have
an equality of their own: numbers agree as collection keys do (`Number.sameKey`), lists
agree item by item, and mappings agree pair by pair in the order of insertion.
-/

namespace ScriptBridge

/-- The value of one parameter. -/
inductive Arg where
  | integer (value : Int)
  | float (number : Number)
  | string (bytes : ByteString)
  | boolean (flag : Bool)
  /-- The value of an enumeration's variant. -/
  | enumeration (value : Int)
  | optional (inner : Option Arg)
  | sequence (items : List Arg)
  /-- Pairs in the order in which their keys came in. -/
  | mapping (pairs : List (Arg × Arg))
  /-- The alternative that fitted, counted from zero, and its value. -/
  | union (index : Nat) (value : Arg)
  | handle (object : Option Handle)
  | callback (reference : Option FunctionRef)
  | context (id : ContextId)
  | placeholder

namespace Arg

instance : Inhabited Arg := ⟨placeholder⟩

/-- The argument that stands for a parameter that could not be read. -/
def default : ParamType → Arg
  | .number kind => if kind.isInteger then integer 0 else float (.zero false)
  | .string => string ⟨[]⟩
  | .boolean => boolean false
  | .enumeration _ => enumeration 0
  | .optional _ => optional none
  | .sequence _ => sequence []
  | .mapping _ _ => mapping []
  | .union [] => union 0 placeholder
  | .union (first :: _) => union 0 (default first)
  | .handle _ => handle none
  | .callback => callback none
  | .context => context ⟨0⟩
  | .placeholder => placeholder

/-- The word for an argument's shape in conversion errors. -/
def kindName : Arg → String
  | integer _ => "integer"
  | float _ => "float"
  | string _ => "string"
  | boolean _ => "boolean"
  | enumeration _ => "enum"
  | optional _ => "optional"
  | sequence _ => "sequence"
  | mapping _ => "mapping"
  | union _ _ => "union"
  | handle _ => "handle"
  | callback _ => "function"
  | context _ => "context"
  | placeholder => "placeholder"

/-! ## Views -/

/-- The argument as a number. -/
def number? : Arg → Option Number
  | float number => some number
  | integer value => some (.ofInt value)
  | _ => none

/-- The argument as an integer. -/
def integer? : Arg → Option Int
  | integer value => some value
  | enumeration value => some value
  | _ => none

/-- The argument as a text. -/
def text? : Arg → Option String
  | string bytes => bytes.toString?
  | _ => none

/-- The argument as a truth value. -/
def boolean? : Arg → Option Bool
  | boolean flag => some flag
  | _ => none

/-! ## Equality -/

mutual

/-- Are two arguments the same? -/
def same : Arg → Arg → Bool
  | integer left, integer right => left == right
  | float left, float right => left.sameKey right
  | string left, string right => left == right
  | boolean left, boolean right => left == right
  | enumeration left, enumeration right => left == right
  | optional none, optional none => true
  | optional (some left), optional (some right) => same left right
  | sequence left, sequence right => sameItems left right
  | mapping left, mapping right => samePairs left right
  | union leftIndex left, union rightIndex right => leftIndex == rightIndex && same left right
  | handle left, handle right => left == right
  | callback left, callback right => left == right
  | context left, context right => left == right
  | placeholder, placeholder => true
  | _, _ => false

/-- Are two lists of arguments the same, item by item? -/
def sameItems : List Arg → List Arg → Bool
  | [], [] => true
  | left :: lefts, right :: rights => same left right && sameItems lefts rights
  | _, _ => false

/-- Are two lists of pairs the same, pair by pair? -/
def samePairs : List (Arg × Arg) → List (Arg × Arg) → Bool
  | [], [] => true
  | (leftKey, left) :: lefts, (rightKey, right) :: rights =>
      same leftKey rightKey && same left right && samePairs lefts rights
  | _, _ => false

end

instance : BEq Arg := ⟨same⟩

/-! ## Hashing

A hash that the same arguments share: the two zeros have one hash. -/

/-- The hash of a number as a collection key. -/
def hashNumber : Number → UInt64
  | .nan => 1
  | .infinite negative => if negative then 2 else 3
  | .finite negative quanta _ =>
      if quanta = 0 then 4 else mixHash (hash negative) (hash quanta)

mutual

/-- The hash of an argument. -/
def hashCode : Arg → UInt64
  | integer value => mixHash 1 (hash value)
  | float number => mixHash 2 (hashNumber number)
  | string bytes => mixHash 3 (hash bytes)
  | boolean flag => mixHash 4 (hash flag)
  | enumeration value => mixHash 5 (hash value)
  | optional none => 6
  | optional (some inner) => mixHash 7 (hashCode inner)
  | sequence items => mixHash 8 (hashItems items)
  | mapping pairs => mixHash 9 (hashPairs pairs)
  | union index value => mixHash 10 (mixHash (hash index) (hashCode value))
  | handle object => mixHash 11 (hash object)
  | callback reference => mixHash 12 (hash reference)
  | context id => mixHash 13 (hash id)
  | placeholder => 14

/-- The hash of a list of arguments. -/
def hashItems : List Arg → UInt64
  | [] => 1
  | item :: rest => mixHash (hashCode item) (hashItems rest)

/-- The hash of a list of pairs. -/
def hashPairs : List (Arg × Arg) → UInt64
  | [] => 1
  | (key, value) :: rest => mixHash (hashCode key) (mixHash (hashCode value) (hashPairs rest))

end

instance : Hashable Arg := ⟨hashCode⟩

end Arg

end ScriptBridge
