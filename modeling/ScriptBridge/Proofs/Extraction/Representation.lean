import Mathlib.Data.List.Forall2
import ScriptBridge.Proofs.Extraction.Matching
import ScriptBridge.Proofs.Extraction.Reference

/-!
# Representation independence

Scripts write a number as a number or as a text that spells it, and hold a native object's
handle as it is or in a box.  Two values are alike (`Value.Alike`) if they differ only in this,
anywhere inside them.  A parameter type that reads no text, as a string or as the name of a
variant, does not tell such values apart: what is extracted from frames of alike values is the
same argument at the same cursor, and a failure in the one frame is a failure of the same cause
in the other (`extract_alike`).

The proof follows the two readings side by side, by induction on the type.  What they read of a
slot is related by `Slots.AlikeAt`.  Their states are related but not equal, because a failure
shows a sample of what it found, and the sample shows how a script wrote it.
-/

namespace ScriptBridge

mutual

/-- Values that differ at most in how numbers and handles in them are represented. -/
inductive Value.Alike : Value → Value → Prop where
  | refl (value : Value) : Alike value value
  | spelled {text : ByteString} {number : Number}
      (spells : Number.parse? text = some number) : Alike (.string text) (.number number)
  | written {text : ByteString} {number : Number}
      (spells : Number.parse? text = some number) : Alike (.number number) (.string text)
  | unboxed (handle : Handle) : Alike (.boxedHandle handle) (.lightHandle handle)
  | boxed (handle : Handle) : Alike (.lightHandle handle) (.boxedHandle handle)
  | table {left right : List (Value × Value)}
      (entries : List.Forall₂ Value.EntryAlike left right) :
      Alike (.table left) (.table right)

inductive Value.EntryAlike : Value × Value → Value × Value → Prop where
  | mk {leftKey rightKey left right : Value} (keys : Value.Alike leftKey rightKey)
      (values : Value.Alike left right) : EntryAlike (leftKey, left) (rightKey, right)

end

mutual

/-- Does a string or the name of a variant occur anywhere in the type? -/
def ParamType.readsText : ParamType → Bool
  | .string => true
  | .enumeration _ => true
  | .optional inner => inner.readsText
  | .sequence element => element.readsText
  | .mapping key item => key.readsText || item.readsText
  | .union alternatives => ParamType.anyReadsText alternatives
  | _ => false

def ParamType.anyReadsText : List ParamType → Bool
  | [] => false
  | type :: rest => type.readsText || ParamType.anyReadsText rest

end

theorem ParamType.anyReadsText_eq_false_iff {types : List ParamType} :
    ParamType.anyReadsText types = false ↔ ∀ type ∈ types, type.readsText = false := by
  induction types with
  | nil => simp [anyReadsText]
  | cons type rest ih => simp [anyReadsText, ih]

/-! ## Alike slots -/

/-- What a type that reads no text sees of a kind. -/
def SlotKind.shape : SlotKind → SlotKind
  | .string => .number
  | .lightHandle => .boxedHandle
  | kind => kind

theorem ParamType.accepts_shape {type : ParamType} (textFree : type.readsText = false)
    (kind : SlotKind) (position : Nat) :
    type.accepts kind.shape position = type.accepts kind position := by
  induction type with
  | string => cases textFree
  | enumeration id => cases textFree
  | union alternatives ih =>
      have allTextFree := anyReadsText_eq_false_iff.mp textFree
      rw [accepts, accepts, Bool.eq_iff_iff, anyAccepts_eq_true_iff, anyAccepts_eq_true_iff]
      apply exists_congr
      intro type
      apply and_congr_right
      intro member
      rw [ih type member (allTextFree type member)]
  | _ => cases kind <;> rfl

namespace Slots

/-- Slots that a type that reads no text cannot tell apart, their entries up to being alike. -/
structure AlikeAt (slots other : Slots) (position : Nat) : Prop where
  shape : (slots.kindAt position).shape = (other.kindAt position).shape
  number : slots.numberAt position = other.numberAt position
  boolean : slots.booleanAt position = other.booleanAt position
  entries : List.Forall₂ Value.EntryAlike (slots.entriesAt position) (other.entriesAt position)
  handle : (slots.handleAt position).map HandleRef.resolve =
    (other.handleAt position).map HandleRef.resolve
  function : slots.functionAt position = other.functionAt position

theorem AlikeAt.matchesAt {slots other : Slots} {position : Nat}
    (alike : slots.AlikeAt other position) {type : ParamType}
    (textFree : type.readsText = false) :
    type.matchesAt slots position = type.matchesAt other position := by
  rw [ParamType.matchesAt, ParamType.matchesAt, ← ParamType.accepts_shape textFree,
    ← ParamType.accepts_shape textFree (other.kindAt position), alike.shape]

theorem AlikeAt.coerciblyMatchesAt {slots other : Slots} {position : Nat}
    (alike : slots.AlikeAt other position) {type : ParamType}
    (textFree : type.readsText = false) :
    type.coerciblyMatchesAt slots position = type.coerciblyMatchesAt other position := by
  rw [ParamType.coerciblyMatchesAt, ParamType.coerciblyMatchesAt, alike.matchesAt textFree,
    alike.number]

theorem entryAlike_refl (entry : Value × Value) : Value.EntryAlike entry entry :=
  .mk (.refl entry.1) (.refl entry.2)

theorem alikeAt_of_holdsAt {slots other : Slots} {position : Nat} {left right : Value}
    (alike : left.Alike right) (leftHolds : slots.HoldsAt position left)
    (rightHolds : other.HoldsAt position right) : slots.AlikeAt other position := by
  constructor
  · rw [leftHolds.kind, rightHolds.kind]
    cases alike <;> rfl
  · rw [leftHolds.number, rightHolds.number]
    cases alike with
    | spelled spells => exact spells
    | written spells => exact spells.symm
    | _ => rfl
  · rw [leftHolds.boolean, rightHolds.boolean]
    cases alike <;> rfl
  · rw [leftHolds.entries, rightHolds.entries]
    cases alike with
    | refl => exact List.forall₂_same.mpr fun entry _ => entryAlike_refl entry
    | table entries => exact entries
    | _ => exact .nil
  · rw [leftHolds.handle, rightHolds.handle]
    cases alike <;> rfl
  · rw [leftHolds.function, rightHolds.function]
    cases alike <;> rfl

theorem valueAt?_alike {left right : List Value} (alike : List.Forall₂ Value.Alike left right)
    (position : Nat) :
    Option.Rel Value.Alike (valueAt? left position) (valueAt? right position) := by
  cases position with
  | zero => exact .none
  | succ index =>
      induction alike generalizing index with
      | nil => exact .none
      | cons first _ ih =>
          cases index with
          | zero => exact .some first
          | succ index => exact ih index

theorem alikeAt_ofValues {left right : List Value}
    (alike : List.Forall₂ Value.Alike left right) (position : Nat) :
    (ofValues left).AlikeAt (ofValues right) position := by
  have related := valueAt?_alike alike position
  cases foundLeft : valueAt? left position with
  | none =>
      cases foundRight : valueAt? right position with
      | none => constructor <;> simp [ofValues, foundLeft, foundRight]
      | some value =>
          rw [foundLeft, foundRight] at related
          cases related
  | some value =>
      cases foundRight : valueAt? right position with
      | none =>
          rw [foundLeft, foundRight] at related
          cases related
      | some other =>
          rw [foundLeft, foundRight] at related
          cases related with
          | some alikeValues =>
              exact alikeAt_of_holdsAt alikeValues (holdsAt_ofValues foundLeft)
                (holdsAt_ofValues foundRight)

end Slots

/-! ## Failures of the same cause -/

/-- Failures that differ at most in the sample that they show. -/
structure ArgumentError.SameCause (left right : ArgumentError) : Prop where
  kind : left.kind = right.kind
  expected : left.expected = right.expected
  argument : left.argument? = right.argument?

namespace FailureState

/-- No failure in both, or failures of the same cause. -/
def Alike (left right : FailureState) : Prop :=
  Option.Rel ArgumentError.SameCause left.first right.first

theorem alike_refl (state : FailureState) : state.Alike state := by
  rcases state with ⟨_ | error⟩
  · exact .none
  · exact .some ⟨rfl, rfl, rfl⟩

theorem Alike.isSet {left right : FailureState} (alike : left.Alike right) :
    left.isSet = right.isSet := by
  rcases left with ⟨leftFirst⟩
  rcases right with ⟨rightFirst⟩
  cases alike <;> rfl

theorem Alike.record {left right : FailureState} (alike : left.Alike right)
    {leftError rightError : ArgumentError} (sameCause : leftError.SameCause rightError) :
    (left.record leftError).Alike (right.record rightError) := by
  rcases left with ⟨leftFirst⟩
  rcases right with ⟨rightFirst⟩
  cases alike with
  | none => exact .some sameCause
  | some first => exact .some first

/-- Equal results, and no failure in both states or failures of the same cause. -/
structure AlikeResults {Result : Type} (left right : Result × FailureState) : Prop where
  result : left.1 = right.1
  state : left.2.Alike right.2

/-- Steps that give alike results from alike states. -/
def ReadAlike (left right : FailureState → Arg × FailureState) : Prop :=
  ∀ leftState rightState : FailureState, leftState.Alike rightState →
    AlikeResults (left leftState) (right rightState)

end FailureState

/-- Equal arguments and cursors, and no failure in both or failures of the same cause. -/
structure Reading.Alike (left right : Reading) : Prop where
  arg : left.arg = right.arg
  cursor : left.cursor = right.cursor
  state : left.state.Alike right.state

theorem Reading.Alike.results {left right : Reading} (alike : left.Alike right) :
    FailureState.AlikeResults (left.arg, left.state) (right.arg, right.state) :=
  ⟨alike.arg, alike.state⟩

theorem Reading.alike_of_results {Result : Type} {left right : Result × FailureState}
    (alike : FailureState.AlikeResults left right) (toArg : Result → Arg) (cursor : Nat) :
    Reading.Alike ⟨toArg left.1, cursor, left.2⟩ ⟨toArg right.1, cursor, right.2⟩ :=
  ⟨congrArg toArg alike.result, rfl, alike.state⟩

namespace CallSite

open FailureState

variable (site : CallSite) {leftState rightState : FailureState}

/-! ## Two readings side by side -/

theorem fail_alike (states : leftState.Alike rightState) (argument : Nat) (kind : FailureKind)
    (expected leftGot rightGot : String) :
    (site.fail argument kind expected leftGot leftState).Alike
      (site.fail argument kind expected rightGot rightState) :=
  states.record ⟨rfl, rfl, rfl⟩

theorem readNumber_alike {slots other : Slots} {position : Nat}
    (alike : slots.AlikeAt other position) (states : leftState.Alike rightState)
    (argument : Nat) (kind : NumberKind) :
    AlikeResults (site.readNumber argument kind slots position leftState)
      (site.readNumber argument kind other position rightState) := by
  simp only [readNumber, alike.number]
  cases other.numberAt position with
  | none => exact ⟨rfl, fail_alike site states ..⟩
  | some number =>
      simp only
      split
      · exact ⟨rfl, fail_alike site states ..⟩
      · exact ⟨rfl, states⟩

theorem readHandle_alike {slots other : Slots} {position : Nat}
    (alike : slots.AlikeAt other position) (states : leftState.Alike rightState)
    (argument : Nat) (classId : ClassId) :
    AlikeResults (site.readHandle argument classId slots position leftState)
      (site.readHandle argument classId other position rightState) := by
  have sameHandle := alike.handle
  simp only [readHandle]
  cases foundLeft : slots.handleAt position with
  | none =>
      cases foundRight : other.handleAt position with
      | none => exact ⟨rfl, states⟩
      | some reference => simp [foundLeft, foundRight] at sameHandle
  | some reference =>
      cases foundRight : other.handleAt position with
      | none => simp [foundLeft, foundRight] at sameHandle
      | some otherReference =>
          have resolvesAlike : reference.resolve = otherReference.resolve := by
            simpa [foundLeft, foundRight] using sameHandle
          simp only [resolvesAlike]
          cases site.registries.classes.downcast? otherReference.resolve classId with
          | none => exact ⟨rfl, fail_alike site states ..⟩
          | some object => exact ⟨rfl, states⟩

theorem readItems_alike (fits : Value → Bool)
    (readItem : Value → FailureState → Arg × FailureState) {lefts rights : List (Value × Value)}
    (entries : List.Forall₂ Value.EntryAlike lefts rights)
    (fitsAlike : ∀ left right, Value.Alike left right → fits left = fits right)
    (itemAlike : ∀ left right, Value.Alike left right →
      ReadAlike (readItem left) (readItem right))
    (states : leftState.Alike rightState) :
    AlikeResults (readItems fits readItem lefts leftState)
      (readItems fits readItem rights rightState) := by
  induction entries generalizing leftState rightState with
  | nil => exact ⟨rfl, states⟩
  | cons entry _ ih =>
      rcases entry with ⟨_, values⟩
      have item := itemAlike _ _ values _ _ states
      have rest := ih item.state
      simp only [readItems, fitsAlike _ _ values, item.state.isSet]
      split
      · split
        · exact ⟨by rw [item.result], item.state⟩
        · exact ⟨by rw [item.result, rest.result], rest.state⟩
      · exact ih states

theorem readPairs_alike (fits : Value → Value → Bool)
    (readKey readItem : Value → Value → FailureState → Arg × FailureState)
    {lefts rights : List (Value × Value)}
    (entries : List.Forall₂ Value.EntryAlike lefts rights)
    (fitsAlike : ∀ left right, Value.EntryAlike left right →
      fits left.1 left.2 = fits right.1 right.2)
    (keyAlike : ∀ left right, Value.EntryAlike left right →
      ReadAlike (readKey left.1 left.2) (readKey right.1 right.2))
    (itemAlike : ∀ left right, Value.EntryAlike left right →
      ReadAlike (readItem left.1 left.2) (readItem right.1 right.2))
    (map : ArgMap) (states : leftState.Alike rightState) :
    AlikeResults (readPairs fits readKey readItem lefts map leftState)
      (readPairs fits readKey readItem rights map rightState) := by
  induction entries generalizing leftState rightState map with
  | nil => exact ⟨rfl, states⟩
  | cons entry _ ih =>
      -- The item is read from the states that the key left, failed or not.
      have key := keyAlike _ _ entry _ _ states
      have item := itemAlike _ _ entry _ _ key.state
      simp only [readPairs, fitsAlike _ _ entry, item.state.isSet, key.result, item.result]
      split
      · split
        · exact ⟨rfl, item.state⟩
        · exact ih _ item.state
      · exact ih map states

theorem alikeAt_item {left right : Value} (alike : left.Alike right) :
    (Slots.ofValues [left]).AlikeAt (.ofValues [right]) 1 :=
  Slots.alikeAt_ofValues (.cons alike .nil) 1

theorem alikeAt_entry {left right : Value × Value} (alike : Value.EntryAlike left right)
    (position : Nat) :
    (Slots.ofValues [left.1, left.2]).AlikeAt (.ofValues [right.1, right.2]) position := by
  rcases alike with ⟨keys, values⟩
  exact Slots.alikeAt_ofValues (.cons keys (.cons values .nil)) position

theorem read_alike {type : ParamType} (textFree : type.readsText = false) {slots other : Slots}
    {position : Nat} (alike : slots.AlikeAt other position) (argument : Nat)
    (states : leftState.Alike rightState) :
    (site.read argument type slots position leftState).Alike
      (site.read argument type other position rightState) := by
  induction type generalizing slots other position leftState rightState with
  | number kind =>
      have number := readNumber_alike site alike states argument kind
      exact Reading.alike_of_results number id (position + 1)
  -- Text is where a number and its spelling part.
  | string => cases textFree
  | boolean => exact ⟨congrArg Arg.boolean alike.boolean, rfl, states⟩
  | enumeration id => cases textFree
  | optional inner ih =>
      have innerTextFree : inner.readsText = false := textFree
      have value := ih innerTextFree alike states
      simp only [read, alike.coerciblyMatchesAt innerTextFree]
      split
      · exact ⟨by simp only [value.arg], value.cursor, value.state⟩
      · exact ⟨rfl, rfl, states⟩
  | sequence element ih =>
      have elementTextFree : element.readsText = false := textFree
      simp only [read]
      refine Reading.alike_of_results (readItems_alike _ _ alike.entries ?fits ?item states)
        Arg.sequence (position + 1)
      case fits =>
        intro left right values
        exact (alikeAt_item values).coerciblyMatchesAt elementTextFree
      case item =>
        intro left right values leftState rightState states
        exact (ih elementTextFree (alikeAt_item values) states).results
  | mapping key item ihKey ihItem =>
      have bothTextFree : key.readsText = false ∧ item.readsText = false := by
        simpa [ParamType.readsText] using textFree
      rcases bothTextFree with ⟨keyTextFree, itemTextFree⟩
      simp only [read]
      refine Reading.alike_of_results
        (readPairs_alike _ _ _ alike.entries ?fits ?key ?item .empty states)
        ArgMap.toArg (position + 1)
      case fits =>
        intro left right entry
        rw [(alikeAt_entry entry 1).coerciblyMatchesAt keyTextFree,
          (alikeAt_entry entry 2).coerciblyMatchesAt itemTextFree]
      case key =>
        intro left right entry leftState rightState states
        exact (ihKey keyTextFree (alikeAt_entry entry 1) states).results
      case item =>
        intro left right entry leftState rightState states
        exact (ihItem itemTextFree (alikeAt_entry entry 2) states).results
  | union alternatives ih =>
      have allTextFree := ParamType.anyReadsText_eq_false_iff.mp textFree
      simp only [read, readFirst_eq, ParamType.firstFitting?_congr fun type member =>
        alike.matchesAt (allTextFree type member)]
      cases found : ParamType.firstFitting? alternatives 0 other position with
      | none => exact ⟨rfl, rfl, states⟩
      | some entry =>
          have member := ParamType.mem_of_firstFitting? found
          have chosen := ih entry.1 member (allTextFree entry.1 member) alike states
          exact ⟨congrArg (Arg.union entry.2) chosen.arg, chosen.cursor, chosen.state⟩
  | handle classId =>
      have handle := readHandle_alike site alike states argument classId
      exact Reading.alike_of_results handle id (position + 1)
  | callback => exact ⟨congrArg Arg.callback alike.function, rfl, states⟩
  | context => exact ⟨rfl, rfl, states⟩
  | placeholder => exact ⟨rfl, rfl, states⟩

/-- A parameter that reads no text is extracted alike from frames of alike values: the same
argument and cursor, and either no failure or failures of one cause. -/
theorem extract_alike {type : ParamType} (textFree : type.readsText = false)
    {left right : List Value} (alike : List.Forall₂ Value.Alike left right) (cursor : Nat)
    (state : FailureState) :
    (site.extract type (.ofValues left) cursor state).Alike
      (site.extract type (.ofValues right) cursor state) := by
  have slotsAlike := Slots.alikeAt_ofValues alike cursor
  have states := alike_refl state
  simp only [extract, matchesAt_checkPosition_congr (slotsAlike.matchesAt textFree)]
  split
  · exact ⟨rfl, rfl, states⟩
  · split
    · exact read_alike site textFree slotsAlike cursor states
    · exact ⟨rfl, rfl, fail_alike site states ..⟩

/-- Two ways to write a table from numbers to vehicles, whose one item is no vehicle. -/
theorem extract_alike_garage :
    let site : CallSite := ⟨"park", ⟨0⟩, default⟩
    let garage : ParamType := .mapping (.number .double) (.handle ⟨"vehicle"⟩)
    let spelled : List Value := [.table [(.string (.ofString "5"), .boxedHandle ⟨7⟩)]]
    let plain : List Value := [.table [(.number (.ofNat 5), .lightHandle ⟨7⟩)]]
    garage.readsText = false ∧ List.Forall₂ Value.Alike spelled plain ∧
      (site.extract garage (.ofValues spelled) 1 .clear).Alike
        (site.extract garage (.ofValues plain) 1 .clear) ∧
      (site.extract garage (.ofValues spelled) 1 .clear).state.first =
        some (.badArgument .valueRejected "park" "vehicle" 1 "userdata") := by
  intro site garage spelled plain
  have spells : Number.parse? (.ofString "5") = some (.ofNat 5) := by decide +kernel
  have alike : List.Forall₂ Value.Alike spelled plain :=
    .cons (.table (.cons (.mk (.spelled spells) (.unboxed ⟨7⟩)) .nil)) .nil
  exact ⟨rfl, alike, extract_alike site rfl alike 1 .clear, by decide +kernel⟩

end CallSite

end ScriptBridge
