import ScriptBridge.Extraction.Match

/-!
# Parameter types and the slots that fit them

Induction over parameter types, with a hypothesis for every alternative of a union, and
what it takes for a slot to fit a type.

An interpreter's answers about one slot need not fit together.  They do if the slot holds a
value (`Slots.HoldsAt`), and a frame is coherent if every slot that is there holds one.
Lists of values are coherent frames, and the entries of a table are read as such lists, so
whatever the frame of a call is, the frames below it are coherent.
-/

namespace ScriptBridge

namespace ParamType

/-- Induction over parameter types that reaches every alternative of a union. -/
@[induction_eliminator]
theorem induction {motive : ParamType → Prop} (number : ∀ kind, motive (.number kind))
    (string : motive .string) (boolean : motive .boolean)
    (enumeration : ∀ id, motive (.enumeration id))
    (optional : ∀ inner, motive inner → motive (.optional inner))
    (sequence : ∀ element, motive element → motive (.sequence element))
    (mapping : ∀ key item, motive key → motive item → motive (.mapping key item))
    (union : ∀ alternatives, (∀ type ∈ alternatives, motive type) →
      motive (.union alternatives))
    (handle : ∀ classId, motive (.handle classId)) (callback : motive .callback)
    (context : motive .context) (placeholder : motive .placeholder) :
    (type : ParamType) → motive type :=
  ParamType.rec (motive_1 := motive) (motive_2 := fun types => ∀ type ∈ types, motive type)
    number string boolean enumeration optional sequence mapping union handle callback
    context placeholder (by simp)
    (fun _ _ first rest type member => by
      rcases List.mem_cons.mp member with rfl | later
      · exact first
      · exact rest type later)

theorem anyAccepts_eq_true_iff {kind : SlotKind} {position : Nat}
    {alternatives : List ParamType} :
    anyAccepts kind position alternatives = true ↔
      ∃ type ∈ alternatives, type.accepts kind position = true := by
  induction alternatives with
  | nil => simp [anyAccepts]
  | cons type rest ih => simp [anyAccepts, ih]

theorem matchesAt_of_coerciblyMatchesAt {type : ParamType} {slots : Slots} {position : Nat}
    (coercible : type.coerciblyMatchesAt slots position = true) :
    type.matchesAt slots position = true := by
  simp only [coerciblyMatchesAt, Bool.and_eq_true] at coercible
  exact coercible.1

/-- The first of several types that the slot at a position fits, and its place among them,
counted on from `index`. -/
def firstFitting? (alternatives : List ParamType) (index : Nat) (slots : Slots)
    (position : Nat) : Option (ParamType × Nat) :=
  (alternatives.zipIdx index).find? fun entry => entry.1.matchesAt slots position

theorem firstFitting?_cons (type : ParamType) (rest : List ParamType) (index : Nat)
    (slots : Slots) (position : Nat) :
    firstFitting? (type :: rest) index slots position =
      if type.matchesAt slots position then some (type, index)
      else firstFitting? rest (index + 1) slots position := by
  simp only [firstFitting?, List.zipIdx_cons, List.find?_cons]
  split <;> simp_all

/-- Which of several types fits first is a matter of which of them fit. -/
theorem firstFitting?_congr {alternatives : List ParamType} {slots other : Slots}
    {position : Nat}
    (same : ∀ type ∈ alternatives,
      type.matchesAt slots position = type.matchesAt other position) (index : Nat) :
    firstFitting? alternatives index slots position =
      firstFitting? alternatives index other position := by
  induction alternatives generalizing index with
  | nil => rfl
  | cons type rest ih =>
      have sameRest := ih (fun later member => same later (List.mem_cons_of_mem _ member))
      rw [firstFitting?_cons, firstFitting?_cons, same type List.mem_cons_self, sameRest]

theorem mem_of_firstFitting? {alternatives : List ParamType} {index : Nat} {slots : Slots}
    {position : Nat} {entry : ParamType × Nat}
    (found : firstFitting? alternatives index slots position = some entry) :
    entry.1 ∈ alternatives :=
  List.fst_mem_of_mem_zipIdx (List.mem_of_find?_eq_some found)

theorem getElem?_of_firstFitting? {alternatives : List ParamType} {slots : Slots}
    {position : Nat} {entry : ParamType × Nat}
    (found : firstFitting? alternatives 0 slots position = some entry) :
    alternatives[entry.2]? = some entry.1 :=
  List.mem_zipIdx_iff_getElem?.mp (List.mem_of_find?_eq_some found)

theorem matchesAt_of_firstFitting? {alternatives : List ParamType} {index : Nat}
    {slots : Slots} {position : Nat} {entry : ParamType × Nat}
    (found : firstFitting? alternatives index slots position = some entry) :
    entry.1.matchesAt slots position = true := by
  rw [firstFitting?] at found
  simpa using List.find?_some found

/-- A slot that fits a union fits one of its alternatives. -/
theorem exists_firstFitting? {alternatives : List ParamType} {slots : Slots} {position : Nat}
    (fits : (union alternatives).matchesAt slots position = true) :
    ∃ entry, firstFitting? alternatives 0 slots position = some entry := by
  simp only [matchesAt, accepts, anyAccepts_eq_true_iff] at fits
  rcases fits with ⟨type, member, accepted⟩
  rcases List.getElem?_of_mem member with ⟨place, placed⟩
  apply Option.isSome_iff_exists.mp
  rw [firstFitting?, List.find?_isSome]
  exact ⟨(type, place), List.mk_mem_zipIdx_iff_getElem?.mpr placed, accepted⟩

end ParamType

namespace Slots

/-- The slot at a position answers as a value does. -/
structure HoldsAt (slots : Slots) (position : Nat) (value : Value) : Prop where
  kind : slots.kindAt position = value.kind
  number : slots.numberAt position = value.toNumber?
  string : slots.stringAt position = value.toString?
  boolean : slots.booleanAt position = value.truthy
  entries : slots.entriesAt position = value.entries
  handle : slots.handleAt position = value.handle?
  function : slots.functionAt position = value.function?

/-- Every slot of the frame is absent or holds a value. -/
def Coherent (slots : Slots) : Prop :=
  ∀ position, slots.kindAt position = .absent ∨ ∃ value, slots.HoldsAt position value

theorem holdsAt_ofValues {values : List Value} {position : Nat} {value : Value}
    (found : valueAt? values position = some value) :
    (ofValues values).HoldsAt position value := by
  constructor <;> simp [ofValues, found]

theorem coherent_ofValues (values : List Value) : (ofValues values).Coherent := by
  intro position
  cases found : valueAt? values position with
  | none => exact Or.inl (by simp [ofValues, found])
  | some value => exact Or.inr ⟨value, holdsAt_ofValues found⟩

variable {slots : Slots} {position : Nat}

/-- A coherent slot that fits a text type reads as a string. -/
theorem Coherent.exists_string (coherent : slots.Coherent)
    (fits : slots.kindAt position = .number ∨ slots.kindAt position = .string) :
    ∃ bytes, slots.stringAt position = some bytes := by
  rcases coherent position with absent | ⟨value, holds⟩
  · simp [absent] at fits
  · rw [holds.kind] at fits
    rw [holds.string]
    cases value <;> simp [Value.kind, Value.toString?] at fits ⊢

/-- A coherent slot that fits a class holds a handle. -/
theorem Coherent.exists_handle (coherent : slots.Coherent)
    (fits : slots.kindAt position = .boxedHandle ∨ slots.kindAt position = .lightHandle) :
    ∃ reference, slots.handleAt position = some reference := by
  rcases coherent position with absent | ⟨value, holds⟩
  · simp [absent] at fits
  · rw [holds.kind] at fits
    rw [holds.handle]
    cases value <;> simp [Value.kind, Value.handle?] at fits ⊢

/-- A coherent slot that fits a callback refers to a function. -/
theorem Coherent.exists_function (coherent : slots.Coherent)
    (fits : slots.kindAt position = .function) :
    ∃ reference, slots.functionAt position = some reference := by
  rcases coherent position with absent | ⟨value, holds⟩
  · simp [absent] at fits
  · rw [holds.kind] at fits
    rw [holds.function]
    cases value <;> simp [Value.kind, Value.function?] at fits ⊢

end Slots

end ScriptBridge
