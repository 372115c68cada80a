import Mathlib.Logic.Basic
import ScriptBridge.Diagnostic.Describe
import ScriptBridge.Diagnostic.Failure
import ScriptBridge.Proofs.ParamType
import ScriptBridge.Proofs.Text.Utf8

/-!
# Printable diagnostics

A text is printable if it has printable ASCII characters only.  What diagnostics are put together
from is printable: digits, the names of kinds, and the sample of a string, which is shown only if
its bytes are.  What remains are the names that a host gives to its classes and enumerations
(`Registries.PrintableFor`).
-/

namespace ScriptBridge

/-! ## Printable texts -/

/-- The character is printable ASCII. -/
def PrintableChar (character : Char) : Prop :=
  0x20 ≤ character.toNat ∧ character.toNat ≤ 0x7e

instance (character : Char) : Decidable (PrintableChar character) :=
  inferInstanceAs (Decidable (_ ∧ _))

/-- All characters of the text are printable ASCII. -/
def Printable (text : String) : Prop :=
  ∀ character ∈ text.toList, PrintableChar character

instance (text : String) : Decidable (Printable text) :=
  List.decidableBAll _ text.toList

@[simp]
theorem printable_ofList {characters : List Char} :
    Printable (String.ofList characters) ↔ ∀ character ∈ characters, PrintableChar character := by
  rw [Printable, String.toList_ofList]

@[simp]
theorem printable_append {front back : String} :
    Printable (front ++ back) ↔ Printable front ∧ Printable back := by
  simp only [Printable, String.toList_append, List.forall_mem_append]

theorem printable_intercalate {separator : String} (between : Printable separator)
    {texts : List String} (each : ∀ text ∈ texts, Printable text) :
    Printable (separator.intercalate texts) := by
  induction texts with
  | nil => exact nofun
  | cons text rest ih =>
      rcases List.forall_mem_cons.mp each with ⟨here, later⟩
      cases rest with
      | nil => simpa using here
      | cons next rest =>
          simp only [String.intercalate_cons_cons, printable_append]
          exact ⟨⟨here, between⟩, ih later⟩

/-! ## Numbers -/

theorem printableChar_of_mem_digitsOf {value : Nat} {character : Char}
    (listed : character ∈ Number.digitsOf value) : PrintableChar character := by
  have isDigit := Nat.isDigit_of_mem_toDigits (by decide) (by decide) listed
  rcases Char.isDigit_iff_toNat.mp isDigit with ⟨low, high⟩
  exact ⟨Nat.le_trans (by decide) low, Nat.le_trans high (by decide)⟩

theorem printable_toString (value : Nat) : Printable (toString value) := by
  intro character listed
  rw [Nat.toString_eq_repr, Nat.toList_repr] at listed
  exact printableChar_of_mem_digitsOf listed

/-- A positional decimal has nothing but digits and a point. -/
theorem printableChar_of_mem_positional {decimal : Decimal} {character : Char}
    (listed : character ∈ Number.positional decimal) : PrintableChar character := by
  have digits : ∀ written ∈ Number.digitsOf decimal.digits, PrintableChar written :=
    fun _ => printableChar_of_mem_digitsOf
  have zeros (count : Nat) : ∀ filled ∈ List.replicate count '0', PrintableChar filled := by
    intro filled listed
    rw [List.eq_of_mem_replicate listed]
    decide
  simp only [Number.positional] at listed
  split at listed
  · exact List.forall_mem_append.mpr ⟨digits, zeros _⟩ _ listed
  · have padded (count : Nat) := List.forall_mem_append.mpr ⟨zeros count, digits⟩
    split at listed
    · exact padded _ _ (List.mem_of_mem_take listed)
    · rcases List.mem_append.mp listed with inWhole | afterWhole
      · exact padded _ _ (List.mem_of_mem_take inWhole)
      · rcases List.mem_cons.mp afterWhole with rfl | inFraction
        · decide
        · have kept := (List.dropWhile_sublist _).mem (List.mem_reverse.mp inFraction)
          exact padded _ _ (List.mem_of_mem_drop (List.mem_reverse.mp kept))

theorem printableChar_of_mem_signText {negative : Bool} {character : Char}
    (listed : character ∈ Number.signText negative) : PrintableChar character := by
  cases negative with
  | true =>
      rw [List.mem_singleton.mp listed]
      decide
  | false => cases listed

theorem printable_render (number : Number) : Printable number.render := by
  have sign (negative : Bool) : ∀ written ∈ Number.signText negative, PrintableChar written :=
    fun _ => printableChar_of_mem_signText
  cases number with
  | nan => decide
  | infinite negative => cases negative <;> decide
  | finite negative quanta held =>
      simp only [Number.render, printable_ofList, Number.renderChars]
      split
      · exact List.forall_mem_append.mpr ⟨sign _, fun _ => printableChar_of_mem_digitsOf⟩
      · exact List.forall_mem_append.mpr ⟨sign _, fun _ => printableChar_of_mem_positional⟩

/-! ## Samples of strings -/

theorem isPrintable_iff {byte : UInt8} :
    isPrintable byte = true ↔ 0x20 ≤ byte.toNat ∧ byte.toNat ≤ 0x7e := by
  simp [isPrintable, UInt8.le_iff_toNat_le]

theorem toNat_ofNat_byte (byte : UInt8) : (Char.ofNat byte.toNat).toNat = byte.toNat :=
  Text.Utf8.toNat_ofNat (.inl (Nat.lt_trans byte.toNat_lt (by decide)))

/-- The characters that a sample is shown by. -/
def shownSample (sample : List UInt8) : String :=
  String.ofList (sample.map fun byte => Char.ofNat byte.toNat)

theorem printable_shownSample {sample : List UInt8}
    (printable : ∀ byte ∈ sample, isPrintable byte = true) : Printable (shownSample sample) := by
  rw [shownSample, printable_ofList, List.forall_mem_map]
  intro byte listed
  rw [PrintableChar, toNat_ofNat_byte]
  exact isPrintable_iff.mp (printable byte listed)

/-- Printable bytes are shown as the text that they spell. -/
theorem ofString_shownSample {sample : List UInt8}
    (printable : ∀ byte ∈ sample, isPrintable byte = true) :
    ByteString.ofString (shownSample sample) = ⟨sample⟩ := by
  rw [shownSample, ByteString.ofString, String.toList_ofList, Text.Utf8.encode]
  congr 1
  induction sample with
  | nil => rfl
  | cons byte rest ih =>
      rcases List.forall_mem_cons.mp printable with ⟨here, later⟩
      have sameValue : (Char.ofNat byte.toNat).val.toNat = byte.toNat := toNat_ofNat_byte byte
      have ascii : byte.toNat ≤ 0x7f := Nat.le_succ_of_le (isPrintable_iff.mp here).2
      rw [List.map_cons, List.flatMap_cons, ih later, String.utf8EncodeChar, sameValue,
        if_pos ascii, UInt8.ofNat_toNat, List.singleton_append]

/-- A string is described by its sample, or by the bare word if a byte of the sample is not
printable. -/
theorem describeString_eq (string : ByteString) :
    describeString string =
      if (sampleOf string.bytes).all isPrintable then
        "string (\"" ++ shownSample (sampleOf string.bytes) ++ "\")"
      else "string" := by
  simp only [describeString, shownSample]

theorem printable_describeString (string : ByteString) : Printable (describeString string) := by
  rw [describeString_eq]
  split
  · rename_i printable
    simp only [printable_append]
    exact ⟨⟨by decide, printable_shownSample (List.all_eq_true.mp printable)⟩, by decide⟩
  · decide

/-- The bare word is no description by a sample. -/
theorem sampled_ne_bare (shown : String) : "string (\"" ++ shown ++ "\")" ≠ "string" := by
  intro same
  have sameLength := congrArg String.length same
  simp only [String.length_append] at sameLength
  have opening : "string (\"".length = 9 := rfl
  have bare : "string".length = 6 := rfl
  omega

theorem describeString_eq_bare_iff {string : ByteString} :
    describeString string = "string" ↔
      ∃ byte ∈ sampleOf string.bytes, byte.toNat < 0x20 ∨ 0x7e < byte.toNat := by
  have notShown : (∃ byte ∈ sampleOf string.bytes, byte.toNat < 0x20 ∨ 0x7e < byte.toNat) ↔
      ¬(sampleOf string.bytes).all isPrintable = true := by
    simp only [List.all_eq_true, isPrintable_iff, not_forall, not_and_or, Nat.not_le, exists_prop]
  rw [notShown, describeString_eq]
  split
  · rename_i printable
    exact iff_of_false (sampled_ne_bare _) (not_not_intro printable)
  · rename_i unprintable
    exact iff_of_true rfl unprintable

theorem exists_shown_of_sampled {string : ByteString} (sampled : describeString string ≠ "string") :
    ∃ shown, ByteString.ofString shown = ⟨sampleOf string.bytes⟩ ∧
      describeString string = "string (\"" ++ shown ++ "\")" := by
  rw [describeString_eq] at sampled ⊢
  split
  · rename_i printable
    exact ⟨_, ofString_shownSample (List.all_eq_true.mp printable), rfl⟩
  · rename_i unprintable
    exact absurd (if_neg unprintable) sampled

theorem length_sampleOf_le (bytes : List UInt8) : (sampleOf bytes).length ≤ sampleLength := by
  rw [sampleOf]
  split
  · assumption
  · simp only [sampleLength, List.length_append, List.length_take, List.length_cons,
      List.length_nil]
    omega

/-! ## Names -/

/-- The names that a diagnostic about a type can show are printable: those of the classes and
enumerations within the type, and those of the objects that scripts hold. -/
structure Registries.PrintableFor (registries : Registries) (type : ParamType) : Prop where
  className {classId : ClassId} (within : (ParamType.handle classId).Within type) :
    Printable (registries.classes.className classId)
  enumName {id : EnumId} {name : String} (within : (ParamType.enumeration id).Within type)
    (named : registries.enums.enumName? id = some name) : Printable name
  instanceName (handle : Handle) : Printable (registries.classes.instanceName handle)

variable {registries : Registries}

/-- The names for a type are the names for each part of it. -/
theorem Registries.PrintableFor.part {type part : ParamType} (names : registries.PrintableFor type)
    (parts : ∀ {inner : ParamType}, inner.Within part → inner.Within type) :
    registries.PrintableFor part :=
  ⟨fun within => names.className (parts within), fun within => names.enumName (parts within),
    names.instanceName⟩

theorem ParamType.displayNames_eq (registries : Registries) (types : List ParamType) :
    displayNames registries types = types.map (displayName registries) := by
  induction types with
  | nil => rfl
  | cons type rest ih => rw [displayNames, ih, List.map_cons]

theorem Registries.PrintableFor.displayName {type : ParamType}
    (names : registries.PrintableFor type) : Printable (type.displayName registries) := by
  induction type with
  | enumeration id =>
      rw [ParamType.displayName]
      cases named : registries.enums.enumName? id with
      | none => decide
      | some name => exact names.enumName .whole named
  | optional inner ih => exact ih (names.part .optional)
  | union alternatives ih =>
      rw [ParamType.displayName, ParamType.displayNames_eq]
      refine printable_intercalate (by decide) ?_
      rw [List.forall_mem_map]
      exact fun type declared => ih type declared (names.part (.alternative declared))
  | handle classId => exact names.className .whole
  | _ =>
      rw [ParamType.displayName]
      decide

theorem SlotKind.printable_name (kind : SlotKind) : Printable kind.name := by
  cases kind <;> decide

/-- Whatever the slot holds, its description is printable. -/
theorem Slots.printable_describe
    (instanceNames : ∀ handle, Printable (registries.classes.instanceName handle)) (slots : Slots)
    (position : Nat) : Printable (slots.describe registries position) := by
  rw [describe]
  split
  · split
    · simp only [printable_append]
      exact ⟨⟨by decide, printable_render _⟩, by decide⟩
    · decide
  · split
    · exact printable_describeString _
    · decide
  · split <;> decide
  · split
    · exact instanceNames _
    · decide
  · split
    · exact instanceNames _
    · decide
  · exact SlotKind.printable_name _

/-- The wording of a bad argument adds nothing that is not printable. -/
theorem printable_badArgumentMessage {function expected got : String}
    (functionName : Printable function) (expectedName : Printable expected)
    (description : Printable got) (argument : Nat) :
    Printable (badArgumentMessage function expected argument got) := by
  unfold badArgumentMessage
  simp only [printable_append, functionName, expectedName, printable_toString, description,
    and_true]
  decide

/-! ## Tables -/

/-- The display names that the table declares are printable, and so are the keys of the classes
that its objects have. -/
structure ClassTable.PrintableNames (table : ClassTable) : Prop where
  displayName {id : ClassId} {info : ClassInfo} (declared : table.classes.find? id = some info) :
    Printable info.displayName
  instanceClass {handle : Handle} {id : ClassId} (alive : table.instances.find? handle = some id) :
    Printable id.name

/-- The display names that the tables declare are printable. -/
def EnumTables.PrintableNames (tables : EnumTables) : Prop :=
  ∀ {id : EnumId} {table : EnumTable}, tables.tables.find? id = some table →
    Printable table.displayName

namespace ClassTable

variable {table : ClassTable}

theorem printableNames_empty : empty.PrintableNames :=
  ⟨nofun, nofun⟩

theorem PrintableNames.declare (names : table.PrintableNames) {displayName : String}
    (printable : Printable displayName) (id : ClassId) (parent : Option ClassId) :
    (table.declare id displayName parent).PrintableNames := by
  refine ⟨fun declared => ?_, names.instanceClass⟩
  simp only [ClassTable.declare, Dictionary.find?_insert] at declared
  split at declared
  · cases declared
    exact printable
  · exact names.displayName declared

theorem PrintableNames.register (names : table.PrintableNames) {id : ClassId}
    (printable : Printable id.name) (handle : Handle) :
    (table.register handle id).PrintableNames := by
  refine ⟨names.displayName, fun alive => ?_⟩
  simp only [ClassTable.register, Dictionary.find?_insert] at alive
  split at alive
  · cases alive
    exact printable
  · exact names.instanceClass alive

/-- An undeclared class is called by its key. -/
theorem PrintableNames.className (names : table.PrintableNames) {id : ClassId}
    (key : Printable id.name) : Printable (table.className id) := by
  rw [ClassTable.className]
  split
  · exact names.displayName ‹_›
  · exact key

theorem PrintableNames.instanceName (names : table.PrintableNames) (handle : Handle) :
    Printable (table.instanceName handle) := by
  rw [ClassTable.instanceName]
  split
  · exact names.className (names.instanceClass ‹_›)
  · decide

end ClassTable

namespace EnumTables

theorem printableNames_empty : empty.PrintableNames :=
  nofun

theorem PrintableNames.insert {tables : EnumTables} (names : tables.PrintableNames)
    {table : EnumTable} (printable : Printable table.displayName) (id : EnumId) :
    (tables.insert id table).PrintableNames := by
  intro _ _ found
  simp only [EnumTables.insert, Dictionary.find?_insert] at found
  split at found
  · cases found
    exact printable
  · exact names found

end EnumTables

/-- Hosts that answer from tables with printable names and keys. -/
theorem Registries.printableFor_ofTables {classes : ClassTable} {enums : EnumTables}
    {type : ParamType} (classNames : classes.PrintableNames) (enumNames : enums.PrintableNames)
    (keys : ∀ classId, (ParamType.handle classId).Within type → Printable classId.name) :
    (Registries.ofTables classes enums).PrintableFor type where
  className within := classNames.className (keys _ within)
  enumName _ named := by
    rcases Option.map_eq_some_iff.mp named with ⟨table, found, rfl⟩
    exact enumNames found
  instanceName := classNames.instanceName

end ScriptBridge
