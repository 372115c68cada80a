import ScriptBridge.Arg.Map
import ScriptBridge.Diagnostic.Describe
import ScriptBridge.Diagnostic.Failure
import ScriptBridge.Extraction.Match

/-!
# Extraction

Reading the slots of a frame into arguments.  `extract` reads one parameter: it checks the
slot's kind and then reads what the type asks for.  Nested types read the entries of a
table as small frames of their own, while failures keep reporting the parameter's own
position.  Nothing is thrown: a failure is recorded in the state, reading goes on with
the value that stands for a missing one, and the loops over a table's entries stop after
the entry in which a failure was recorded.
-/

namespace ScriptBridge

/-- What stays the same while a call is read. -/
structure CallSite where
  /-- The function's name in diagnostics. -/
  function : String
  context : ContextId
  registries : Registries

/-- What reading a type leaves: the argument, the position of the next slot, and the
failures so far. -/
structure Reading where
  arg : Arg
  cursor : Nat
  state : FailureState

namespace CallSite

variable (site : CallSite)

/-- Records that the argument at a position is not what is expected. -/
def fail (argument : Nat) (kind : FailureKind) (expected got : String)
    (state : FailureState) : FailureState :=
  state.record (.badArgument kind site.function expected argument got)

/-- Records that the value in a slot is rejected for a type. -/
def reject (argument : Nat) (type : ParamType) (slots : Slots) (position : Nat)
    (state : FailureState) : FailureState :=
  site.fail argument .valueRejected (type.displayName site.registries)
    (slots.describe site.registries position) state

/-- The argument that a number gives for a kind of number. -/
def numberArg (kind : NumberKind) (number : Number) : Arg :=
  match kind.integerBounds? with
  | some (low, high) => .integer (number.saturate low high)
  | none => .float (if kind = .single then number.toSingle else number)

/-- Reads a slot as a number.  The undefined number is rejected by name. -/
def readNumber (argument : Nat) (kind : NumberKind) (slots : Slots) (position : Nat)
    (state : FailureState) : Arg × FailureState :=
  match slots.numberAt position with
  | some number =>
      if number.isNaN then
        (Arg.default (.number kind), site.fail argument .valueRejected "number" "NaN" state)
      else (numberArg kind number, state)
  | none =>
      (Arg.default (.number kind), site.reject argument (.number kind) slots position state)

/-- Reads a slot as the name of a variant. -/
def readEnumeration (argument : Nat) (id : EnumId) (slots : Slots) (position : Nat)
    (state : FailureState) : Arg × FailureState :=
  let value? := (slots.stringAt position).bind fun name =>
    name.toString?.bind (site.registries.enums.parse? id)
  match value? with
  | some value => (.enumeration value, state)
  | none => (.enumeration 0, site.reject argument (.enumeration id) slots position state)

/-- Reads a slot as an object of a class. -/
def readHandle (argument : Nat) (classId : ClassId) (slots : Slots) (position : Nat)
    (state : FailureState) : Arg × FailureState :=
  match slots.handleAt position with
  | none => (.handle none, state)
  | some reference =>
      match site.registries.classes.downcast? reference.resolve classId with
      | some object => (.handle (some object), state)
      | none =>
          (.handle none,
            site.fail argument .valueRejected (site.registries.classes.className classId)
              (site.registries.classes.instanceName reference.resolve) state)

/-- Reads the fitting values of a table's entries, up to the first failure. -/
def readItems (fits : Value → Bool) (readItem : Value → FailureState → Arg × FailureState) :
    List (Value × Value) → FailureState → List Arg × FailureState
  | [], state => ([], state)
  | (_, value) :: rest, state =>
      if fits value then
        let (item, state) := readItem value state
        if state.isSet then ([item], state)
        else
          let (items, state) := readItems fits readItem rest state
          (item :: items, state)
      else readItems fits readItem rest state

/-- Reads the fitting entries of a table into a map, up to the first failure.  The key of
an entry is read before its value. -/
def readPairs (fits : Value → Value → Bool)
    (readKey readItem : Value → Value → FailureState → Arg × FailureState) :
    List (Value × Value) → ArgMap → FailureState → ArgMap × FailureState
  | [], map, state => (map, state)
  | (key, value) :: rest, map, state =>
      if fits key value then
        let (keyArg, state) := readKey key value state
        let (itemArg, state) := readItem key value state
        let map := map.insert keyArg itemArg
        if state.isSet then (map, state) else readPairs fits readKey readItem rest map state
      else readPairs fits readKey readItem rest map state

mutual

/-- Reads a type at a position whose slot is known to fit it. -/
def read (argument : Nat) : ParamType → Slots → Nat → FailureState → Reading
  | .number kind, slots, position, state =>
      let (arg, state) := site.readNumber argument kind slots position state
      ⟨arg, position + 1, state⟩
  | .string, slots, position, state =>
      ⟨.string ((slots.stringAt position).getD ⟨[]⟩), position + 1, state⟩
  | .boolean, slots, position, state =>
      ⟨.boolean (slots.booleanAt position), position + 1, state⟩
  | .enumeration id, slots, position, state =>
      let (arg, state) := site.readEnumeration argument id slots position state
      ⟨arg, position + 1, state⟩
  | .optional inner, slots, position, state =>
      if inner.coerciblyMatchesAt slots position then
        let reading := read argument inner slots position state
        { reading with arg := .optional (some reading.arg) }
      else ⟨.optional none, position, state⟩
  | .sequence element, slots, position, state =>
      let (items, state) := readItems
        (fun value => element.coerciblyMatchesAt (.ofValues [value]) 1)
        (fun value state =>
          let reading := read argument element (.ofValues [value]) 1 state
          (reading.arg, reading.state))
        (slots.entriesAt position) state
      ⟨.sequence items, position + 1, state⟩
  | .mapping key item, slots, position, state =>
      let (map, state) := readPairs
        (fun left right =>
          key.coerciblyMatchesAt (.ofValues [left, right]) 1
            && item.coerciblyMatchesAt (.ofValues [left, right]) 2)
        (fun left right state =>
          let reading := read argument key (.ofValues [left, right]) 1 state
          (reading.arg, reading.state))
        (fun left right state =>
          let reading := read argument item (.ofValues [left, right]) 2 state
          (reading.arg, reading.state))
        (slots.entriesAt position) .empty state
      ⟨map.toArg, position + 1, state⟩
  | .union alternatives, slots, position, state =>
      match readFirst argument alternatives 0 slots position state with
      | some reading => reading
      | none => ⟨Arg.default (.union alternatives), position, state⟩
  | .handle classId, slots, position, state =>
      let (arg, state) := site.readHandle argument classId slots position state
      ⟨arg, position + 1, state⟩
  | .callback, slots, position, state =>
      ⟨.callback (slots.functionAt position), position + 1, state⟩
  | .context, _, position, state => ⟨.context site.context, position, state⟩
  | .placeholder, _, position, state => ⟨.placeholder, position, state⟩

/-- Reads the first alternative that the slot fits; the alternatives are counted on from
`index`. -/
def readFirst (argument : Nat) :
    List ParamType → (index : Nat) → Slots → Nat → FailureState → Option Reading
  | [], _, _, _, _ => none
  | type :: rest, index, slots, position, state =>
      if type.matchesAt slots position then
        let reading := read argument type slots position state
        some { reading with arg := .union index reading.arg }
      else readFirst argument rest (index + 1) slots position state

end

/-- The position whose slot decides whether a type fits: the context has its own. -/
def checkPosition (type : ParamType) (cursor : Nat) : Nat :=
  match type with
  | .context => contextPosition
  | _ => cursor

/-- Extracts one parameter at the cursor.  Once the call has failed, every further
parameter gives its default and no slot is read. -/
def extract (type : ParamType) (slots : Slots) (cursor : Nat) (state : FailureState) :
    Reading :=
  if state.isSet then ⟨Arg.default type, cursor, state⟩
  else if type.matchesAt slots (checkPosition type cursor) then
    site.read cursor type slots cursor state
  else
    ⟨Arg.default type, cursor,
      site.fail cursor .structuralMismatch (type.displayName site.registries)
        (slots.describe site.registries cursor) state⟩

/-- Extracts the parameters of a signature in turn, up to the first failure. -/
def extractAll (slots : Slots) : List ParamType → Nat → FailureState →
    List Arg × Nat × FailureState
  | [], cursor, state => ([], cursor, state)
  | type :: rest, cursor, state =>
      let reading := site.extract type slots cursor state
      if reading.state.isSet then ([reading.arg], reading.cursor, reading.state)
      else
        let (args, cursor, state) := extractAll slots rest reading.cursor reading.state
        (reading.arg :: args, cursor, state)

end CallSite

end ScriptBridge
