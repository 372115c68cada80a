import ScriptBridge.Proofs.Extraction.Reference
import ScriptBridge.Proofs.ParamType

/-!
# The shapes of arguments

`Arg.HasShape` says which arguments a type can stand for, whatever was read: the constructor is
the type's own, a union has the index of an alternative and a value of that alternative's shape,
and so on into the elements of tables.  Every reading has the shape of its type if no union
within the type is without alternatives (`hasShape_read`).  This holds of readings that fail and
of readings after a failure too, because the defaults have the shapes of their types.
-/

namespace ScriptBridge

namespace Arg

/-- The argument has the shape of a type. -/
inductive HasShape : Arg → ParamType → Prop where
  | integer {kind : NumberKind} (isInteger : kind.isInteger = true) (value : Int) :
      HasShape (.integer value) (.number kind)
  | float {kind : NumberKind} (isFloat : kind.isInteger = false) (number : Number) :
      HasShape (.float number) (.number kind)
  | string (bytes : ByteString) : HasShape (.string bytes) .string
  | boolean (flag : Bool) : HasShape (.boolean flag) .boolean
  | enumeration (id : EnumId) (value : Int) : HasShape (.enumeration value) (.enumeration id)
  | missing (inner : ParamType) : HasShape (.optional none) (.optional inner)
  | present {arg : Arg} {inner : ParamType} (shaped : HasShape arg inner) :
      HasShape (.optional (some arg)) (.optional inner)
  | sequence {items : List Arg} {element : ParamType}
      (shaped : ∀ item ∈ items, HasShape item element) :
      HasShape (.sequence items) (.sequence element)
  | mapping {pairs : List (Arg × Arg)} {key item : ParamType}
      (keys : ∀ pair ∈ pairs, HasShape pair.1 key)
      (items : ∀ pair ∈ pairs, HasShape pair.2 item) :
      HasShape (.mapping pairs) (.mapping key item)
  | union {index : Nat} {value : Arg} {alternatives : List ParamType} {type : ParamType}
      (declared : alternatives[index]? = some type) (shaped : HasShape value type) :
      HasShape (.union index value) (.union alternatives)
  | handle (object : Option Handle) (classId : ClassId) :
      HasShape (.handle object) (.handle classId)
  | callback (reference : Option FunctionRef) : HasShape (.callback reference) .callback
  | context (id : ContextId) : HasShape (.context id) .context
  | placeholder : HasShape .placeholder .placeholder

theorem HasShape.of_pairs {pairs : List (Arg × Arg)} {key item : ParamType}
    (shaped : ∀ pair ∈ pairs, pair.1.HasShape key ∧ pair.2.HasShape item) :
    (Arg.mapping pairs).HasShape (.mapping key item) :=
  .mapping (fun pair listed => (shaped pair listed).1) fun pair listed => (shaped pair listed).2

/-- Within an argument of a type stands, at some depth, an argument of another type. -/
inductive Holds (part : Arg) (partType : ParamType) : Arg → ParamType → Prop where
  | whole : Holds part partType part partType
  | optional {arg : Arg} {inner : ParamType} (holds : Holds part partType arg inner) :
      Holds part partType (.optional (some arg)) (.optional inner)
  | element {items : List Arg} {item : Arg} {element : ParamType} (listed : item ∈ items)
      (holds : Holds part partType item element) :
      Holds part partType (.sequence items) (.sequence element)
  | key {pairs : List (Arg × Arg)} {pair : Arg × Arg} {key item : ParamType}
      (listed : pair ∈ pairs) (holds : Holds part partType pair.1 key) :
      Holds part partType (.mapping pairs) (.mapping key item)
  | item {pairs : List (Arg × Arg)} {pair : Arg × Arg} {key item : ParamType}
      (listed : pair ∈ pairs) (holds : Holds part partType pair.2 item) :
      Holds part partType (.mapping pairs) (.mapping key item)
  | alternative {index : Nat} {value : Arg} {alternatives : List ParamType} {type : ParamType}
      (declared : alternatives[index]? = some type) (holds : Holds part partType value type) :
      Holds part partType (.union index value) (.union alternatives)

/-- What stands within an argument has the shape that its place asks for. -/
theorem HasShape.of_holds {part arg : Arg} {partType type : ParamType}
    (holds : part.Holds partType arg type) (shaped : arg.HasShape type) :
    part.HasShape partType := by
  induction holds with
  | whole => exact shaped
  | optional _ ih =>
      cases shaped with
      | present inner => exact ih inner
  | element listed _ ih =>
      cases shaped with
      | sequence elements => exact ih (elements _ listed)
  | key listed _ ih =>
      cases shaped with
      | mapping keys items => exact ih (keys _ listed)
  | item listed _ ih =>
      cases shaped with
      | mapping keys items => exact ih (items _ listed)
  | alternative declared _ ih =>
      cases shaped with
      | union declaredToo value =>
          rw [declared] at declaredToo
          cases declaredToo
          exact ih value

/-- Only an alternative that is itself the placeholder has a placeholder for its value. -/
theorem HasShape.eq_placeholder {type : ParamType} (shaped : Arg.placeholder.HasShape type) :
    type = .placeholder := by
  cases shaped
  rfl

theorem HasShape.alternative_of_placeholder {index : Nat} {alternatives : List ParamType}
    (shaped : (Arg.union index .placeholder).HasShape (.union alternatives)) :
    alternatives[index]? = some .placeholder := by
  cases shaped with
  | union declared value => rw [declared, value.eq_placeholder]

/-- The default of a type has its shape, unless it is the default of a union without
alternatives. -/
theorem hasShape_default {type : ParamType} (filled : ¬(ParamType.union []).Within type) :
    (default type).HasShape type := by
  induction type with
  | number kind =>
      rw [default]
      split
      · rename_i isInteger
        exact .integer isInteger 0
      · rename_i notInteger
        exact .float (Bool.eq_false_iff.mpr notInteger) _
  | string => exact .string _
  | boolean => exact .boolean false
  | enumeration id => exact .enumeration id 0
  | optional inner => exact .missing inner
  | sequence element => exact .sequence (by simp)
  | mapping key item => exact .mapping (by simp) (by simp)
  | union alternatives ih =>
      cases alternatives with
      | nil => exact absurd .whole filled
      | cons first rest =>
          refine .union (List.getElem?_cons_zero) (ih first List.mem_cons_self ?_)
          exact fun within => filled (.alternative List.mem_cons_self within)
  | handle classId => exact .handle none classId
  | callback => exact .callback none
  | context => exact .context _
  | placeholder => exact .placeholder

end Arg

namespace CallSite

variable {site : CallSite}

/-! ## Readings of one slot -/

theorem hasShape_numberArg (kind : NumberKind) (number : Number) :
    (numberArg kind number).HasShape (.number kind) := by
  rw [numberArg]
  split
  · rename_i bounded
    exact .integer (by rw [NumberKind.isInteger, bounded]; rfl) _
  · rename_i unbounded
    exact .float (by rw [NumberKind.isInteger, unbounded]; rfl) _

theorem hasShape_readNumber (argument : Nat) (kind : NumberKind) (slots : Slots)
    (position : Nat) (state : FailureState) :
    (site.readNumber argument kind slots position state).1.HasShape (.number kind) := by
  have defaulted : (Arg.default (.number kind)).HasShape (.number kind) :=
    Arg.hasShape_default nofun
  rw [readNumber]
  split
  · split
    · exact defaulted
    · exact hasShape_numberArg kind _
  · exact defaulted

theorem hasShape_readEnumeration (argument : Nat) (id : EnumId) (slots : Slots)
    (position : Nat) (state : FailureState) :
    (site.readEnumeration argument id slots position state).1.HasShape (.enumeration id) := by
  simp only [readEnumeration]
  split
  · exact .enumeration id _
  · exact .enumeration id 0

theorem hasShape_readHandle (argument : Nat) (classId : ClassId) (slots : Slots)
    (position : Nat) (state : FailureState) :
    (site.readHandle argument classId slots position state).1.HasShape (.handle classId) := by
  rw [readHandle]
  split
  · exact .handle none classId
  · split
    · exact .handle _ classId
    · exact .handle none classId

/-! ## Tables -/

/-- What is true of every reading of a value is true of the items that are read, however soon
the loop stops. -/
theorem forall_mem_readItems (motive : Arg → Prop) {fits : Value → Bool}
    {readItem : Value → FailureState → Arg × FailureState}
    (each : ∀ value state, motive (readItem value state).1) (entries : List (Value × Value))
    (state : FailureState) : ∀ item ∈ (readItems fits readItem entries state).1, motive item := by
  induction entries generalizing state with
  | nil => exact nofun
  | cons entry rest ih =>
      simp only [readItems]
      split
      · split
        · exact List.forall_mem_singleton.mpr (each _ _)
        · exact List.forall_mem_cons.mpr ⟨each _ _, ih _⟩
      · exact ih state

/-- What is true of every reading of a key, and what is true of every reading of an item, is true
of the keys and the items of the map that is read. -/
theorem forall_mem_readPairs (ofKey ofItem : Arg → Prop) {fits : Value → Value → Bool}
    {readKey readItem : Value → Value → FailureState → Arg × FailureState}
    (eachKey : ∀ key value state, ofKey (readKey key value state).1)
    (eachItem : ∀ key value state, ofItem (readItem key value state).1)
    (entries : List (Value × Value)) {map : ArgMap} (indexed : map.Indexed)
    (before : ∀ pair ∈ map.toList, ofKey pair.1 ∧ ofItem pair.2) (state : FailureState) :
    ∀ pair ∈ (readPairs fits readKey readItem entries map state).1.toList,
      ofKey pair.1 ∧ ofItem pair.2 := by
  induction entries generalizing map state with
  | nil => exact before
  | cons entry rest ih =>
      simp only [readPairs]
      split
      · have after : ∀ keyArg itemArg, ofKey keyArg → ofItem itemArg →
            ∀ pair ∈ (map.insert keyArg itemArg).toList, ofKey pair.1 ∧ ofItem pair.2 := by
          intro keyArg itemArg keyHolds itemHolds pair member
          rw [ArgMap.toList_insert indexed] at member
          rcases Arg.mem_writePair member with ⟨keyFrom, itemFrom⟩
          constructor
          · rcases keyFrom with isNew | ⟨old, listed, isOld⟩
            · exact isNew ▸ keyHolds
            · exact isOld ▸ (before old listed).1
          · rcases itemFrom with isNew | ⟨old, listed, isOld⟩
            · exact isNew ▸ itemHolds
            · exact isOld ▸ (before old listed).2
        split
        · exact after _ _ (eachKey _ _ _) (eachItem _ _ _)
        · exact ih (ArgMap.indexed_insert indexed _ _)
            (after _ _ (eachKey _ _ _) (eachItem _ _ _)) _
      · exact ih indexed before state

/-! ## Every reading -/

/-- What is read of a type has its shape, in whatever state and from whatever slot. -/
theorem hasShape_read {type : ParamType} (filled : ¬(ParamType.union []).Within type)
    (argument : Nat) (slots : Slots) (position : Nat) (state : FailureState) :
    (site.read argument type slots position state).arg.HasShape type := by
  induction type generalizing slots position state with
  | number kind => exact hasShape_readNumber argument kind slots position state
  | string => exact .string _
  | boolean => exact .boolean _
  | enumeration id => exact hasShape_readEnumeration argument id slots position state
  | optional inner ih =>
      simp only [read]
      split
      · exact .present (ih (fun within => filled (.optional within)) slots position state)
      · exact .missing inner
  | sequence element ih =>
      refine .sequence (forall_mem_readItems (Arg.HasShape · element) ?_ _ _)
      exact fun value state => ih (fun within => filled (.element within)) _ _ state
  | mapping key item ihKey ihItem =>
      refine .of_pairs (forall_mem_readPairs (Arg.HasShape · key) (Arg.HasShape · item) ?_ ?_ _
        ArgMap.indexed_empty (List.forall_mem_nil _) _)
      · exact fun _ _ state => ihKey (fun within => filled (.key within)) _ _ state
      · exact fun _ _ state => ihItem (fun within => filled (.item within)) _ _ state
  | union alternatives ih =>
      simp only [read, readFirst_eq]
      cases found : ParamType.firstFitting? alternatives 0 slots position with
      | none => exact Arg.hasShape_default filled
      | some entry =>
          have member := ParamType.mem_of_firstFitting? found
          refine .union (ParamType.getElem?_of_firstFitting? found) ?_
          exact ih entry.1 member (fun within => filled (.alternative member within)) _ _ _
  | handle classId => exact hasShape_readHandle argument classId slots position state
  | callback => exact .callback _
  | context => exact .context _
  | placeholder => exact .placeholder

/-- What is extracted of a type has its shape: what is read, and the default after a failure. -/
theorem hasShape_extract {type : ParamType} (filled : ¬(ParamType.union []).Within type)
    (slots : Slots) (cursor : Nat) (state : FailureState) :
    (site.extract type slots cursor state).arg.HasShape type := by
  rw [extract]
  split
  · exact Arg.hasShape_default filled
  · split
    · exact hasShape_read filled cursor slots cursor state
    · exact Arg.hasShape_default filled

end CallSite

end ScriptBridge
