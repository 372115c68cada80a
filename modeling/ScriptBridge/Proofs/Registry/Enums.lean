import ScriptBridge.Proofs.Dictionary
import ScriptBridge.Registry.Enums

/-!
# The names of values

An enumeration is looked up in both directions, and each direction follows the last variant that
is about the key: the last one with a value names it, and the last one with a name gives it its
value.  So the name of a value always leads to some value.  It leads back to the value it came
from, unless the name is given out again behind the value's back: a variant that repeats the name
with another value redirects the name and leaves the old value named.
-/

namespace ScriptBridge

/-- An enumeration as a host declares it. -/
structure Enumeration where
  id : EnumId
  displayName : String
  variants : List (String × Int)

namespace Enumeration

def table (enumeration : Enumeration) : EnumTable :=
  .ofVariants enumeration.displayName enumeration.variants

/-- After the last time that the name is given the value, it is given another one. -/
def Redirects (enumeration : Enumeration) (name : String) (value : Int) : Prop :=
  ∃ before after, enumeration.variants = before ++ (name, value) :: after ∧
    (name, value) ∉ after ∧ ∃ variant ∈ after, variant.1 = name

end Enumeration

namespace EnumTable

theorem ofVariants_eq (displayName : String) (variants : List (String × Int)) :
    ofVariants displayName variants =
      ⟨displayName, .ofList variants, .ofList (variants.map Prod.swap)⟩ := by
  induction variants using List.reverseRecOn with
  | nil => rfl
  | append_singleton variants variant ih =>
      have extended : ofVariants displayName (variants ++ [variant]) =
          (ofVariants displayName variants).variant variant.1 variant.2 := by
        simp only [ofVariants, List.foldl_append, List.foldl_cons, List.foldl_nil]
      rw [extended, ih]
      simp only [EnumTable.variant, List.map_append, List.map_cons,
        List.map_nil, Dictionary.ofList_append_singleton, Prod.fst_swap, Prod.snd_swap]

theorem find?_byName (displayName : String) (variants : List (String × Int)) (name : String)
    (value : Int) :
    (ofVariants displayName variants).byName.find? name = some value ↔
      (variants.filter (·.1 = name)).getLast? = some (name, value) := by
  rw [ofVariants_eq]
  exact Dictionary.find?_ofList_eq_some_iff variants name value

theorem find?_byValue (displayName : String) (variants : List (String × Int)) (name : String)
    (value : Int) :
    (ofVariants displayName variants).byValue.find? value = some name ↔
      (variants.filter (·.2 = value)).getLast? = some (name, value) := by
  rw [ofVariants_eq, Dictionary.find?_ofList_eq_some_iff, List.filter_map, List.getLast?_map,
    Option.map_eq_some_iff]
  constructor
  · rintro ⟨⟨found, number⟩, latest, swapped⟩
    cases swapped
    exact latest
  · intro latest
    exact ⟨(name, value), latest, rfl⟩

end EnumTable

namespace EnumTables

/-- The enumerations that a host declares, in turn. -/
def ofEnumerations (enumerations : List Enumeration) : EnumTables :=
  enumerations.foldl (fun tables enumeration => tables.insert enumeration.id enumeration.table)
    .empty

theorem ofEnumerations_eq (enumerations : List Enumeration) :
    ofEnumerations enumerations =
      ⟨.ofList (enumerations.map fun enumeration => (enumeration.id, enumeration.table))⟩ := by
  induction enumerations using List.reverseRecOn with
  | nil => rfl
  | append_singleton enumerations enumeration ih =>
      have extended : ofEnumerations (enumerations ++ [enumeration]) =
          (ofEnumerations enumerations).insert enumeration.id enumeration.table := by
        simp only [ofEnumerations, List.foldl_append, List.foldl_cons, List.foldl_nil]
      rw [extended, ih]
      simp only [insert, List.map_append, List.map_cons, List.map_nil,
        Dictionary.ofList_append_singleton]

/-- A key stands for the enumeration that is declared last with it. -/
theorem find?_ofEnumerations {enumerations : List Enumeration} {id : EnumId} {table : EnumTable}
    (found : (ofEnumerations enumerations).tables.find? id = some table) :
    ∃ enumeration, (enumerations.filter (·.id = id)).getLast? = some enumeration ∧
      table = enumeration.table := by
  rw [ofEnumerations_eq, Dictionary.find?_ofList_eq_some_iff, List.filter_map, List.getLast?_map,
    Option.map_eq_some_iff] at found
  rcases found with ⟨enumeration, latest, pair⟩
  exact ⟨enumeration, latest, (congrArg Prod.snd pair).symm⟩

theorem redirects_iff {enumeration : Enumeration} {name : String} {value number : Int}
    (declared : (name, value) ∈ enumeration.variants)
    (latest : (enumeration.variants.filter (·.1 = name)).getLast? = some (name, number)) :
    enumeration.Redirects name value ↔ number ≠ value := by
  constructor
  · rintro ⟨before, after, split, fresh, variant, variantMem, isName⟩ rfl
    -- The last variant of the name is among those after the split.
    have later : variant ∈ after.filter (·.1 = name) :=
      List.mem_filter.mpr ⟨variantMem, by simp [isName]⟩
    have last : (after.filter (·.1 = name)).getLast? = some (name, number) := by
      rw [split, List.filter_append, List.filter_cons_of_pos (by simp),
        List.getLast?_append_of_ne_nil _ (List.cons_ne_nil _ _),
        List.getLast?_cons_of_ne_nil (List.ne_nil_of_mem later)] at latest
      exact latest
    exact fresh (List.mem_of_mem_filter (List.mem_of_getLast? last))
  · intro differs
    rcases List.eq_append_cons_of_mem (List.mem_reverse.mpr declared) with
      ⟨after, before, split, fresh⟩
    have split : enumeration.variants = before.reverse ++ (name, value) :: after.reverse := by
      rw [← List.reverse_reverse enumeration.variants, split]
      simp
    refine ⟨before.reverse, after.reverse, split, by simpa using fresh, ?_⟩
    by_contra none
    have empty : after.reverse.filter (·.1 = name) = [] := by
      rw [List.filter_eq_nil_iff]
      intro variant variantMem isName
      exact none ⟨variant, variantMem, by simpa using isName⟩
    rw [split, List.filter_append, List.filter_cons_of_pos (by simp), empty,
      List.getLast?_concat] at latest
    exact differs (congrArg Prod.snd (Option.some.inj latest)).symm

/-- The name of a value has a value, and it is the one it came from unless the enumeration gives
the name to another value later on. -/
theorem parse?_of_variantName? {enumerations : List Enumeration} {id : EnumId} {value : Int}
    {name : String} (named : (ofEnumerations enumerations).variantName? id value = some name) :
    ∃ enumeration number, (enumerations.filter (·.id = id)).getLast? = some enumeration ∧
      (ofEnumerations enumerations).parse? id name = some number ∧
      (number = value ↔ ¬enumeration.Redirects name value) := by
  rcases Option.bind_eq_some_iff.mp named with ⟨table, found, byValue⟩
  rcases find?_ofEnumerations found with ⟨enumeration, latest, rfl⟩
  have last := (EnumTable.find?_byValue _ _ _ _).mp byValue
  have declared : (name, value) ∈ enumeration.variants :=
    List.mem_of_mem_filter (List.mem_of_getLast? last)
  have ofName : (name, value) ∈ enumeration.variants.filter (·.1 = name) :=
    List.mem_filter.mpr ⟨declared, by simp⟩
  cases lastOfName : (enumeration.variants.filter (·.1 = name)).getLast? with
  | none =>
      rw [List.getLast?_eq_none_iff.mp lastOfName] at ofName
      cases ofName
  | some variant =>
      rcases variant with ⟨again, number⟩
      have isName : again = name := by
        simpa using (List.mem_filter.mp (List.mem_of_getLast? lastOfName)).2
      subst isName
      refine ⟨enumeration, number, latest, ?_, ?_⟩
      · apply Option.bind_eq_some_iff.mpr
        exact ⟨_, found, (EnumTable.find?_byName _ _ _ _).mpr lastOfName⟩
      · rw [redirects_iff declared lastOfName, not_not]

/-- A value with two names, the first of which moves on to another value, in an enumeration that
takes the place of an earlier one. -/
theorem parse?_of_variantName?_clear :
    let enumerations : List Enumeration :=
      [⟨⟨"weather"⟩, "weather", [("clear", 3)]⟩,
        ⟨⟨"weather"⟩, "weather-type", [("sunny", 1), ("clear", 1), ("sunny", 2)]⟩]
    let tables := ofEnumerations enumerations
    tables.variantName? ⟨"weather"⟩ 1 = some "clear" ∧
      ∃ enumeration number, (enumerations.filter (·.id = ⟨"weather"⟩)).getLast? = some enumeration ∧
        tables.parse? ⟨"weather"⟩ "clear" = some number ∧
        (number = 1 ↔ ¬enumeration.Redirects "clear" 1) := by
  intro enumerations tables
  have named : tables.variantName? ⟨"weather"⟩ 1 = some "clear" := by decide
  exact ⟨named, parse?_of_variantName? named⟩

/-- A name is given to a second value.  The first value keeps the name, which leads to the
second. -/
theorem redirected_name_kept :
    let tables := ofEnumerations [⟨⟨"weather"⟩, "weather", [("sunny", 1), ("sunny", 2)]⟩]
    tables.variantName? ⟨"weather"⟩ 1 = some "sunny" ∧
      tables.parse? ⟨"weather"⟩ "sunny" = some 2 ∧
      ¬∀ (value : Int) (name : String), tables.variantName? ⟨"weather"⟩ value = some name →
        tables.parse? ⟨"weather"⟩ name = some value := by
  intro tables
  have named : tables.variantName? ⟨"weather"⟩ 1 = some "sunny" := by decide
  have parsed : tables.parse? ⟨"weather"⟩ "sunny" = some 2 := by decide
  refine ⟨named, parsed, ?_⟩
  intro inverse
  have impossible := parsed.symm.trans (inverse 1 "sunny" named)
  cases impossible

end EnumTables

end ScriptBridge
