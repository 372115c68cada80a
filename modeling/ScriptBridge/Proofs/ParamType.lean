import ScriptBridge.Proofs.Extraction.Matching

/-!
# Parts of parameter types

What stands within a parameter type at some depth.  The search for a union without alternatives
finds one exactly if there is one within the type (`hasEmptyUnion_eq_true_iff`).
-/

namespace ScriptBridge

namespace ParamType

/-- A type stands within another one, at any depth, or is the other one. -/
inductive Within (part : ParamType) : ParamType → Prop where
  | whole : Within part part
  | optional {inner : ParamType} (within : Within part inner) : Within part (.optional inner)
  | element {element : ParamType} (within : Within part element) : Within part (.sequence element)
  | key {key item : ParamType} (within : Within part key) : Within part (.mapping key item)
  | item {key item : ParamType} (within : Within part item) : Within part (.mapping key item)
  | alternative {alternatives : List ParamType} {type : ParamType}
      (declared : type ∈ alternatives) (within : Within part type) :
      Within part (.union alternatives)

theorem anyHasEmptyUnion_eq_true_iff {types : List ParamType} :
    anyHasEmptyUnion types = true ↔ ∃ type ∈ types, type.hasEmptyUnion = true := by
  induction types with
  | nil => simp [anyHasEmptyUnion]
  | cons type rest ih => simp [anyHasEmptyUnion, ih]

theorem within_of_hasEmptyUnion {type : ParamType} (found : type.hasEmptyUnion = true) :
    (union []).Within type := by
  induction type with
  | optional inner ih => exact .optional (ih found)
  | sequence element ih => exact .element (ih found)
  | mapping key item ihKey ihItem =>
      rcases Bool.or_eq_true_iff.mp found with inKey | inItem
      · exact .key (ihKey inKey)
      · exact .item (ihItem inItem)
  | union alternatives ih =>
      rcases Bool.or_eq_true_iff.mp found with nothing | inAlternative
      · rw [List.isEmpty_iff.mp nothing]
        exact .whole
      · rcases anyHasEmptyUnion_eq_true_iff.mp inAlternative with ⟨type, declared, inType⟩
        exact .alternative declared (ih type declared inType)
  | _ => cases found

/-- The search for a union without alternatives reaches every part of the type. -/
theorem hasEmptyUnion_eq_true_iff {type : ParamType} :
    type.hasEmptyUnion = true ↔ (union []).Within type := by
  refine ⟨within_of_hasEmptyUnion, ?_⟩
  intro within
  induction within with
  | whole => rfl
  | optional _ ih => exact ih
  | element _ ih => exact ih
  | key _ ih => exact Bool.or_eq_true_iff.mpr (.inl ih)
  | item _ ih => exact Bool.or_eq_true_iff.mpr (.inr ih)
  | alternative declared _ ih =>
      exact Bool.or_eq_true_iff.mpr (.inr (anyHasEmptyUnion_eq_true_iff.mpr ⟨_, declared, ih⟩))

end ParamType

end ScriptBridge
