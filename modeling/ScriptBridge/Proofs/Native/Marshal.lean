import Mathlib.Data.List.Perm.Basic
import ScriptBridge.Native.Conversion

/-!
# Marshalled values

A native value goes to a script as the script value that `NativeType.toValue?` makes of it.
A map has no order of its own, so its table may list the entries in any order, at every depth.
`NativeType.listed` is the script value whose tables list the entries as the carrier does,
`NativeType.Same` is equality up to the order of pairs, and the script values that stand for
a native value are what some listing of it is listed as (`NativeType.Marshals`).
-/

namespace ScriptBridge.NativeType

/-! ## The types that can be marshalled -/

def isOption : NativeType → Bool
  | option _ => true
  | _ => false

/-- The types that have both parameters and script values, and whose missing values can be
told apart: a missing value is nil, so there is no option directly in an option. -/
inductive Marshalled : NativeType → Prop where
  | integer {width : IntegerWidth} {kind : NumberKind}
      (declared : width.numberKind? = some kind) : Marshalled (integer width)
  | single : Marshalled single
  | double : Marshalled double
  | text : Marshalled text
  | bytes : Marshalled bytes
  | boolean : Marshalled boolean
  | function : Marshalled function
  | option {inner : NativeType} (required : inner.isOption = false)
      (held : Marshalled inner) : Marshalled (option inner)
  | list {element : NativeType} (each : Marshalled element) : Marshalled (list element)
  | map {key item : NativeType} (keys : key.canKey = true) (eachKey : Marshalled key)
      (eachItem : Marshalled item) : Marshalled (map key item)

/-! ## Values up to the order of pairs -/

/-- The values that a native program holds, with every number defined: single-precision
numbers are rounded to single precision, and no key comes twice in a map. -/
def IsProper : (type : NativeType) → type.Carrier → Prop
  | single, number => number.isNaN = false ∧ Number.toSingle number = number
  | double, number => number.isNaN = false
  | option _, none => True
  | option inner, some value => inner.IsProper value
  | list element, items =>
      let items : List element.Carrier := items
      ∀ item ∈ items, element.IsProper item
  | map key item, pairs =>
      let pairs : List (key.Carrier × item.Carrier) := pairs
      pairs.Pairwise (fun earlier later => key.sameKey earlier.1 later.1 = false) ∧
        ∀ pair ∈ pairs, key.IsProper pair.1 ∧ item.IsProper pair.2
  | _, _ => True

/-- Are two carriers the same value?  They may list the pairs of their maps in different
orders. -/
def Same : (type : NativeType) → type.Carrier → type.Carrier → Prop
  | option inner, left, right => Option.Rel inner.Same left right
  | list element, left, right => List.Forall₂ element.Same left right
  | map key item, left, right =>
      ∃ listing, List.Perm left listing ∧
        List.Forall₂ (fun first second => key.Same first.1 second.1 ∧ item.Same first.2 second.2)
          listing right
  | _, left, right => left = right

/-- The script value whose tables list their entries as the carrier lists its pairs. -/
def listed : (type : NativeType) → type.Carrier → Value
  | integer _, value => .number (.ofInt value.val)
  | single, number => .number number
  | double, number => .number number
  | text, content => .string (.ofString content)
  | bytes, content => .string content
  | boolean, flag => .boolean flag
  | handle, object => .lightHandle object
  | function, reference => .function reference
  | option _, none => .nil
  | option inner, some value => inner.listed value
  | list element, items => .sequence (items.map element.listed)
  | map key item, pairs =>
      .table (pairs.map fun pair => (key.listed pair.1, item.listed pair.2))
  | context, _ => .nil
  | placeholder, _ => .nil
  | argument, _ => .nil

/-- The script values that stand for a native value: its tables list the entries of every
map in some order. -/
def Marshals (type : NativeType) (value : type.Carrier) (script : Value) : Prop :=
  ∃ listing, type.Same value listing ∧ type.listed listing = script

/-! ## Equality up to the order of pairs -/

theorem same_refl (type : NativeType) (value : type.Carrier) : type.Same value value := by
  induction type with
  | option inner ih =>
      cases value with
      | none => exact .none
      | some value => exact .some (ih value)
  | list element ih =>
      simp only [Same]
      exact List.forall₂_same.mpr fun item _ => ih item
  | map key item ihKey ihItem =>
      simp only [Same]
      refine ⟨value, List.Perm.refl _, ?_⟩
      exact List.forall₂_same.mpr fun pair _ => ⟨ihKey pair.1, ihItem pair.2⟩
  | _ => rfl

/-- The values of a type that keys maps are free of maps, so being the same is being
equal. -/
theorem eq_of_same {type : NativeType} (keys : type.canKey = true)
    {left right : type.Carrier} (same : type.Same left right) : left = right := by
  induction type with
  | option inner ih =>
      simp only [Same] at same
      cases same with
      | none => rfl
      | some heldSame => rw [ih keys heldSame]
  | list element ih =>
      simp only [Same] at same
      induction same with
      | nil => rfl
      | cons itemSame _ restEqual => rw [ih keys itemSame, restEqual]
  | map key item ihKey ihItem => simp [canKey] at keys
  | _ => exact same

theorem agree_eq_true_iff {Item : Type} [DecidableEq Item] {left right : Item} :
    agree Item left right = true ↔ left = right :=
  decide_eq_true_iff

theorem sameItems_eq_true_iff {Item : Type} {same : Item → Item → Bool}
    (exact : ∀ left right, same left right = true ↔ left = right) {lefts rights : List Item} :
    sameItems same lefts rights = true ↔ lefts = rights := by
  induction lefts generalizing rights with
  | nil => cases rights <;> simp [sameItems]
  | cons left lefts ih => cases rights <;> simp [sameItems, exact, ih]

/-- Among the marshalled keys, only equal ones are the same key. -/
theorem sameKey_eq_true_iff {type : NativeType} (marshalled : type.Marshalled)
    (keys : type.canKey = true) (left right : type.Carrier) :
    type.sameKey left right = true ↔ left = right := by
  induction marshalled with
  | integer declared => exact beq_iff_eq.trans Subtype.ext_iff.symm
  | single => simp [canKey] at keys
  | double => simp [canKey] at keys
  | text => exact agree_eq_true_iff
  | bytes => exact agree_eq_true_iff
  | boolean => exact agree_eq_true_iff
  | function => exact agree_eq_true_iff
  | option required held ih =>
      cases left with
      | none =>
          cases right with
          | none => exact ⟨fun _ => rfl, fun _ => rfl⟩
          | some right => exact ⟨nofun, nofun⟩
      | some left =>
          cases right with
          | none => exact ⟨nofun, nofun⟩
          | some right =>
              have sameHeld := ih keys left right
              exact sameHeld.trans ⟨congrArg some, Option.some.inj⟩
  | list each ih => exact sameItems_eq_true_iff (ih keys)
  | map itemKeys eachKey eachItem ihKey ihItem => simp [canKey] at keys

/-- No key comes twice if the list of keys has no duplicates. -/
theorem distinct_iff_nodup {key item : NativeType} (marshalled : key.Marshalled)
    (keys : key.canKey = true) (pairs : List (key.Carrier × item.Carrier)) :
    pairs.Pairwise (fun earlier later => key.sameKey earlier.1 later.1 = false) ↔
      (pairs.map Prod.fst).Nodup := by
  have differ : ∀ left right, key.sameKey left right = false ↔ left ≠ right := by
    intro left right
    rw [← Bool.not_eq_true, not_congr (sameKey_eq_true_iff marshalled keys left right)]
  simp only [differ, List.Nodup, List.pairwise_map]

theorem keys_eq_of_same {key item : NativeType} (keys : key.canKey = true)
    {lefts rights : List (key.Carrier × item.Carrier)}
    (same : List.Forall₂ (fun first second =>
      key.Same first.1 second.1 ∧ item.Same first.2 second.2) lefts rights) :
    lefts.map Prod.fst = rights.map Prod.fst := by
  induction same with
  | nil => rfl
  | cons pairSame _ restEqual =>
      rw [List.map_cons, List.map_cons, restEqual, eq_of_same keys pairSame.1]

theorem forall_mem_of_forall₂ {Item : Type} {related : Item → Item → Prop} {good : Item → Prop}
    (kept : ∀ left right, good left → related left right → good right)
    {lefts rights : List Item} (allRelated : List.Forall₂ related lefts rights)
    (allGood : ∀ left ∈ lefts, good left) : ∀ right ∈ rights, good right := by
  induction allRelated with
  | nil => exact allGood
  | cons firstRelated _ restGood =>
      rw [List.forall_mem_cons] at allGood ⊢
      exact ⟨kept _ _ allGood.1 firstRelated, restGood allGood.2⟩

/-- Listing the pairs of maps in another order keeps a value proper: the keys are the same
ones, each of them once. -/
theorem isProper_of_same {type : NativeType} (marshalled : type.Marshalled)
    {value listing : type.Carrier} (proper : type.IsProper value)
    (same : type.Same value listing) : type.IsProper listing := by
  induction marshalled with
  | option required held ih =>
      simp only [Same] at same
      cases same with
      | none => exact proper
      | some heldSame => exact ih proper heldSame
  | list each ih =>
      simp only [Same] at same
      apply forall_mem_of_forall₂ _ same proper
      intro left right leftProper itemSame
      exact ih leftProper itemSame
  | @map key item keys eachKey eachItem ihKey ihItem =>
      change List (key.Carrier × item.Carrier) at value listing
      simp only [Same] at same
      rcases same with ⟨reordered, permuted, pairsSame⟩
      rcases proper with ⟨distinct, each⟩
      constructor
      · rw [distinct_iff_nodup eachKey keys] at distinct ⊢
        rw [← keys_eq_of_same keys pairsSame]
        exact (permuted.map Prod.fst).nodup_iff.mp distinct
      · have eachReordered : ∀ pair ∈ reordered, key.IsProper pair.1 ∧ item.IsProper pair.2 := by
          intro pair pairMem
          exact each pair (permuted.mem_iff.mpr pairMem)
        apply forall_mem_of_forall₂ _ pairsSame eachReordered
        intro left right leftProper pairSame
        exact ⟨ihKey leftProper.1 pairSame.1, ihItem leftProper.2 pairSame.2⟩
  | _ => exact same ▸ proper

/-! ## Conversion into script values -/

theorem exists_toValue? {type : NativeType} (marshalled : type.Marshalled) :
    ∃ convert, type.toValue? = some convert := by
  induction marshalled with
  | option required held ih =>
      rcases ih with ⟨convert, converts⟩
      exact ⟨_, by rw [toValue?, converts]; rfl⟩
  | list each ih =>
      rcases ih with ⟨convert, converts⟩
      exact ⟨_, by rw [toValue?, converts]; rfl⟩
  | map keys eachKey eachItem ihKey ihItem =>
      rcases ihKey with ⟨convertKey, keyConverts⟩
      rcases ihItem with ⟨convertItem, itemConverts⟩
      exact ⟨_, by rw [toValue?, keyConverts, itemConverts]; rfl⟩
  | _ => exact ⟨_, rfl⟩

theorem toValue?_map {key item : NativeType} {convert : (map key item).Carrier → Value}
    (converts : (map key item).toValue? = some convert) :
    ∃ convertKey convertItem, key.toValue? = some convertKey ∧
      item.toValue? = some convertItem ∧
      (fun (pairs : List (key.Carrier × item.Carrier)) => Value.table (Value.sortEntries
        (pairs.map fun pair => (convertKey pair.1, convertItem pair.2)))) = convert := by
  simp only [toValue?] at converts
  split at converts
  · rename_i convertKey convertItem keyConverts itemConverts
    exact ⟨convertKey, convertItem, keyConverts, itemConverts, Option.some.inj converts⟩
  · simp at converts

/-- Entries that each stand for one of several items are the entries of one list of items. -/
theorem exists_listing {Item Entry : Type} {related : Item → Item → Prop}
    {entryOf : Item → Entry} {items : List Item} {entries : List Entry}
    (each : List.Forall₂ (fun item entry => ∃ listing, related item listing ∧
      entryOf listing = entry) items entries) :
    ∃ listings, List.Forall₂ related items listings ∧ listings.map entryOf = entries := by
  induction each with
  | nil => exact ⟨[], .nil, rfl⟩
  | cons first _ ih =>
      rcases first with ⟨listing, firstRelated, isEntry⟩
      rcases ih with ⟨listings, restRelated, areEntries⟩
      exact ⟨listing :: listings, .cons firstRelated restRelated, by
        rw [List.map_cons, isEntry, areEntries]⟩

theorem exists_reordered {Item Entry : Type} {related : Item → Entry → Prop}
    {items : List Item} {entries sorted : List Entry}
    (each : List.Forall₂ related items entries) (permuted : List.Perm entries sorted) :
    ∃ reordered, List.Perm items reordered ∧ List.Forall₂ related reordered sorted := by
  have crossed : Relation.Comp (List.Forall₂ related) List.Perm items sorted :=
    ⟨entries, each, permuted⟩
  rw [List.forall₂_comp_perm_eq_perm_comp_forall₂] at crossed
  exact crossed

/-- The script value that a native value converts into stands for it.  Its tables are sorted
by their keys, which is one order of the pairs. -/
theorem marshals_of_toValue? {type : NativeType} {convert : type.Carrier → Value}
    (converts : type.toValue? = some convert) (value : type.Carrier) :
    type.Marshals value (convert value) := by
  induction type with
  | option inner ih =>
      rcases Option.map_eq_some_iff.mp converts with ⟨convertInner, innerConverts, rfl⟩
      cases value with
      | none => exact ⟨none, .none, rfl⟩
      | some held =>
          rcases ih innerConverts held with ⟨listing, same, isListed⟩
          exact ⟨some listing, .some same, isListed⟩
  | list element ih =>
      rcases Option.map_eq_some_iff.mp converts with ⟨convertElement, elementConverts, rfl⟩
      change List element.Carrier at value
      have each : List.Forall₂ (fun item entry => element.Marshals item entry) value
          (value.map convertElement) := by
        rw [List.forall₂_map_right_iff]
        exact List.forall₂_same.mpr fun item _ => ih elementConverts item
      rcases exists_listing each with ⟨listing, same, areListed⟩
      refine ⟨listing, same, ?_⟩
      simp only [listed, areListed]
  | map key item ihKey ihItem =>
      rcases toValue?_map converts with ⟨convertKey, convertItem, keyConverts, itemConverts, rfl⟩
      change List (key.Carrier × item.Carrier) at value
      have each : List.Forall₂ (fun pair (entry : Value × Value) =>
          key.Marshals pair.1 entry.1 ∧ item.Marshals pair.2 entry.2) value
          (value.map fun pair => (convertKey pair.1, convertItem pair.2)) := by
        rw [List.forall₂_map_right_iff]
        exact List.forall₂_same.mpr fun pair _ =>
          ⟨ihKey keyConverts pair.1, ihItem itemConverts pair.2⟩
      -- Sorting the entries lists the entries of reordered pairs.
      rcases exists_reordered each (List.mergeSort_perm _ _).symm with
        ⟨reordered, permuted, eachReordered⟩
      have eachPair : List.Forall₂ (fun pair (entry : Value × Value) =>
          ∃ listing : key.Carrier × item.Carrier,
            (key.Same pair.1 listing.1 ∧ item.Same pair.2 listing.2) ∧
              (key.listed listing.1, item.listed listing.2) = entry) reordered
          (Value.sortEntries (value.map fun pair => (convertKey pair.1, convertItem pair.2))) := by
        refine eachReordered.imp ?_
        intro pair entry marshals
        rcases marshals with ⟨⟨keyListing, keySame, keyListed⟩, itemListing, itemSame, itemListed⟩
        exact ⟨(keyListing, itemListing), ⟨keySame, itemSame⟩, Prod.ext keyListed itemListed⟩
      rcases exists_listing eachPair with ⟨listing, same, areListed⟩
      refine ⟨listing, ⟨reordered, permuted, same⟩, ?_⟩
      simp only [listed, areListed]
  | context => simp [toValue?] at converts
  | placeholder => simp [toValue?] at converts
  | argument => simp [toValue?] at converts
  | _ =>
      rw [← Option.some.inj converts]
      exact ⟨value, same_refl _ value, rfl⟩

end ScriptBridge.NativeType
