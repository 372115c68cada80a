import ScriptBridge.Binding.Call
import ScriptBridge.Proofs.Diagnostic.Printable
import ScriptBridge.Proofs.Extraction.Classification

/-!
# What scripts can put into diagnostics

Scripts choose the values that a diagnostic describes, and nothing that they choose leaves
printable ASCII: if the names that a host gives are printable, then so is every diagnostic of a
parameter (`printable_of_extract`), of a list of parameters and of a call.
-/

namespace ScriptBridge

variable {site : CallSite}

namespace CallSite

/-- What is expected and what is got are printable wherever something offends. -/
theorem Offends.printable {type : ParamType} {slots : Slots} {position : Nat}
    {expected got : String} (offends : site.Offends type slots position expected got)
    (names : site.registries.PrintableFor type) : Printable expected ∧ Printable got := by
  induction offends with
  | undefinedNumber => decide
  | noNumber => exact ⟨by decide, Slots.printable_describe names.instanceName _ _⟩
  | noVariant => exact ⟨names.displayName, Slots.printable_describe names.instanceName _ _⟩
  | otherClass => exact ⟨names.className .whole, names.instanceName _⟩
  | present _ _ ih => exact ih (names.part .optional)
  | element _ _ _ ih => exact ih (names.part .element)
  | key _ _ _ _ ih => exact ih (names.part .key)
  | item _ _ _ _ ih => exact ih (names.part .item)
  | chosen _ declared _ ih =>
      exact ih (names.part (.alternative (List.mem_of_getElem? declared)))

theorem Reportable.printable {type : ParamType} {slots : Slots} {cursor : Nat} {kind : FailureKind}
    {expected got : String} (reportable : site.Reportable type slots cursor kind expected got)
    (names : site.registries.PrintableFor type) : Printable expected ∧ Printable got := by
  cases reportable with
  | misfit => exact ⟨names.displayName, Slots.printable_describe names.instanceName _ _⟩
  | rejected _ offends => exact offends.printable names

/-- Whatever the slots answer, the diagnostic of a parameter is printable. -/
theorem printable_of_extract (functionName : Printable site.function) {type : ParamType}
    (names : site.registries.PrintableFor type) {slots : Slots} {cursor : Nat}
    {error : ArgumentError}
    (failed : (site.extract type slots cursor .clear).state.first = some error) :
    Printable error.message := by
  have member := List.mem_of_head? (first_extract type slots cursor ▸ failed)
  rcases mem_paramFaults_iff.mp member with ⟨kind, expected, got, reportable, rfl⟩
  rcases reportable.printable names with ⟨expectedPrintable, gotPrintable⟩
  exact printable_badArgumentMessage functionName expectedPrintable gotPrintable cursor

variable (site) in
/-- The diagnostic of a list of parameters is that of one of them. -/
theorem printable_of_extractAll (functionName : Printable site.function) {params : List ParamType}
    (names : ∀ type ∈ params, site.registries.PrintableFor type) {slots : Slots} {start : Nat}
    {error : ArgumentError}
    (failed : (site.extractAll slots params start .clear).2.2.first = some error) :
    Printable error.message := by
  induction params generalizing start with
  | nil => cases failed
  | cons type rest ih =>
      rcases List.forall_mem_cons.mp names with ⟨here, later⟩
      rw [extractAll_cons] at failed
      dsimp only at failed
      split at failed
      · exact printable_of_extract functionName here failed
      · exact ih later failed

/-- Nothing that a script passes gets into a diagnostic unless it is printable ASCII, if the name
of the function, the class keys and the display names are.  Of a string, all of a short one or the
first seven bytes and an ellipsis are shown, and nothing if there is anything else among them. -/
theorem diagnostics_printable (site : CallSite) (functionName : Printable site.function)
    (type : ParamType) :
    (site.registries.PrintableFor type → ∀ (slots : Slots) (cursor : Nat) (error : ArgumentError),
      (site.extract type slots cursor .clear).state.first = some error →
        Printable error.message) ∧
    (∀ (classes : ClassTable) (enums : EnumTables),
      classes.PrintableNames → enums.PrintableNames →
      (∀ classId, (ParamType.handle classId).Within type → Printable classId.name) →
        (Registries.ofTables classes enums).PrintableFor type) ∧
    ∀ (slots : Slots) (position : Nat) (string : ByteString), slots.kindAt position = .string →
      slots.stringAt position = some string →
        let sample := if string.length ≤ 10 then string.bytes
          else string.bytes.take 7 ++ (ByteString.ofString "...").bytes
        let description := slots.describe site.registries position
        sample.length ≤ 10 ∧
          (description = "string" ↔ ∃ byte ∈ sample, byte.toNat < 0x20 ∨ 0x7e < byte.toNat) ∧
          (description ≠ "string" → ∃ shown, ByteString.ofString shown = ⟨sample⟩ ∧
            description = "string (\"" ++ shown ++ "\")") := by
  refine ⟨fun names slots cursor error failed => printable_of_extract functionName names failed,
    fun classes enums => Registries.printableFor_ofTables, ?_⟩
  intro slots position string isString held sample description
  have described : description = describeString string := by
    simp only [description, Slots.describe, isString, held]
  rw [described]
  exact ⟨length_sampleOf_le string.bytes, describeString_eq_bare_iff, exists_shown_of_sampled⟩

/-- An escape sequence, and a line break that the ellipsis hides. -/
theorem diagnostics_printable_paint :
    let classes : ClassTable :=
      (ClassTable.empty.declare ⟨"vehicle"⟩ "vehicle" none).register ⟨9⟩ ⟨"vehicle"⟩
    let enums : EnumTables := EnumTables.empty.insert ⟨"weather"⟩ (.empty "weather-type")
    let registries : Registries := .ofTables classes enums
    let site : CallSite := ⟨"paint", ⟨0⟩, registries⟩
    let type : ParamType := .union [.handle ⟨"vehicle"⟩, .sequence (.enumeration ⟨"weather"⟩)]
    let slots : Slots :=
      .ofValues [.string ⟨[0x1b, 0x5b, 0x6d]⟩, .string (.ofString "painted\nred")]
    let message := "Bad argument @ 'paint' [Expected vehicle/table at argument 1, got string]"
    registries.PrintableFor type ∧ Printable message ∧
      (∃ error, (site.extract type slots 1 .clear).state.first = some error ∧
        error.message = message) ∧
      slots.describe registries 1 = "string" ∧
      slots.describe registries 2 = "string (\"painted...\")" := by
  intro classes enums registries site type slots message
  rcases diagnostics_printable site (by decide) type with ⟨printable, fromTables, strings⟩
  have names : registries.PrintableFor type := by
    apply fromTables
    · exact (ClassTable.printableNames_empty.declare (by decide) _ _).register (by decide) _
    · exact EnumTables.printableNames_empty.insert (by decide) _
    · intro classId within
      simp only [type] at within
      cases within with
      | alternative declared within =>
          simp only [List.mem_cons, List.not_mem_nil, or_false] at declared
          rcases declared with rfl | rfl
          · cases within
            decide
          · cases within with
            | element within => cases within
  have failed : ∃ error, (site.extract type slots 1 .clear).state.first = some error ∧
      error.message = message := ⟨_, rfl, rfl⟩
  rcases failed with ⟨error, recorded, worded⟩
  refine ⟨names, worded ▸ printable names slots 1 error recorded, ⟨error, recorded, worded⟩, ?_, ?_⟩
  · exact (strings slots 1 _ rfl rfl).2.1.mpr ⟨0x1b, by decide, by decide⟩
  · rcases strings slots 2 _ rfl rfl with ⟨-, bareIff, sampled⟩
    have isSampled : slots.describe registries 2 ≠ "string" := bareIff.not.mpr (by decide)
    rcases sampled isSampled with ⟨shown, spelled, described⟩
    have sample : ByteString.ofString shown = .ofString "painted..." := spelled
    rw [described, ByteString.ofString_injective sample]
    rfl

end CallSite

/-- Scripts cannot make a call raise or log anything that is not printable because of an
argument. -/
theorem Binding.printable_of_arguments {binding : Binding} {frame : Frame}
    (functionName : Printable (binding.functionName frame))
    (names : ∀ type ∈ binding.params, binding.registries.PrintableFor type) {error : ArgumentError}
    (failed : binding.arguments frame = .error error) : Printable error.message := by
  exact CallSite.printable_of_extractAll (binding.callSite frame) functionName names
    (arguments_eq_error_iff.mp failed)

end ScriptBridge
