import ScriptBridge.Proofs.Arg.History
import ScriptBridge.Proofs.Native.Arguments

/-!
# Maps of native values by their insertions

A map of native values is converted pair by pair from a map of arguments, so two kinds of
insertions follow one another.  First the arguments of a table's entries find their pairs, each
in the place that its key got when it came in first.  Then the pairs are inserted once more,
under the native values of their keys.  Where several arguments become one native key, the
argument that was the last to come in for the first time decides, with the last item that it was
given (`itemAt?_ofArg_map`).
-/

namespace ScriptBridge

namespace NativeType

variable {key item : NativeType}

/-- Among the keys of this type, only equal ones are the same. -/
def ExactKeys (key : NativeType) : Prop :=
  ∀ left right : key.Carrier, key.sameKey left right = true ↔ left = right

variable (key item) in
/-- The item that a map has for a key. -/
def itemAt? (query : key.Carrier) (pairs : List (key.Carrier × item.Carrier)) :
    Option item.Carrier :=
  (pairs.find? fun pair => key.sameKey pair.1 query).map Prod.snd

/-! ## Insertions into a native map -/

/-- An inserted key has the inserted item, every other key what it had. -/
theorem itemAt?_insertPair (exact : key.ExactKeys) (newKey query : key.Carrier)
    (newItem : item.Carrier) (pairs : List (key.Carrier × item.Carrier)) :
    itemAt? key item query (insertPair key item newKey newItem pairs) =
      if key.sameKey newKey query then some newItem else itemAt? key item query pairs := by
  induction pairs with
  | nil => cases asked : key.sameKey newKey query <;> simp [insertPair, itemAt?, asked]
  | cons pair rest ih =>
      rcases pair with ⟨oldKey, oldItem⟩
      simp only [itemAt?] at ih ⊢
      by_cases isSame : key.sameKey oldKey newKey = true
      · have equal := (exact oldKey newKey).mp isSame
        subst equal
        cases asked : key.sameKey oldKey query <;> simp [insertPair, isSame, asked]
      · cases oldAsked : key.sameKey oldKey query with
        | true =>
            have equal := (exact oldKey query).mp oldAsked
            subst equal
            have other : key.sameKey newKey oldKey = false := by
              rw [Bool.eq_false_iff]
              intro asked
              rw [(exact newKey oldKey).mp asked] at isSame
              exact isSame ((exact oldKey oldKey).mpr rfl)
            simp [insertPair, isSame, oldAsked, other]
        | false => simp [insertPair, isSame, oldAsked, ih]

theorem mem_keys_insertPair {newKey query : key.Carrier}
    {newItem : item.Carrier} {pairs : List (key.Carrier × item.Carrier)}
    (listed : query ∈ (insertPair key item newKey newItem pairs).map Prod.fst) :
    query = newKey ∨ query ∈ pairs.map Prod.fst := by
  induction pairs with
  | nil => exact .inl (by simpa [insertPair] using listed)
  | cons pair rest ih =>
      rcases pair with ⟨oldKey, oldItem⟩
      simp only [insertPair] at listed
      split at listed
      · exact .inr listed
      · rcases List.mem_cons.mp listed with isFirst | later
        · exact .inr (List.mem_cons.mpr (.inl isFirst))
        · exact (ih later).imp_right (List.mem_cons_of_mem oldKey)

/-- Inserting lists no key twice. -/
theorem nodup_insertPair (exact : key.ExactKeys) (newKey : key.Carrier) (newItem : item.Carrier)
    {pairs : List (key.Carrier × item.Carrier)} (distinct : (pairs.map Prod.fst).Nodup) :
    ((insertPair key item newKey newItem pairs).map Prod.fst).Nodup := by
  induction pairs with
  | nil => simp [insertPair]
  | cons pair rest ih =>
      rcases pair with ⟨oldKey, oldItem⟩
      rcases List.nodup_cons.mp distinct with ⟨isFirst, restDistinct⟩
      simp only [insertPair]
      split
      · exact distinct
      · rename_i different
        apply List.nodup_cons.mpr
        refine ⟨fun listed => ?_, ih restDistinct⟩
        rcases mem_keys_insertPair listed with isNew | isOld
        · exact different ((exact oldKey newKey).mpr isNew)
        · exact isFirst isOld

/-- If no key is listed twice, a map lists for every key the item that it has for it. -/
theorem mem_iff_itemAt? (exact : key.ExactKeys) {pairs : List (key.Carrier × item.Carrier)}
    (distinct : (pairs.map Prod.fst).Nodup) {query : key.Carrier} {value : item.Carrier} :
    (query, value) ∈ pairs ↔ itemAt? key item query pairs = some value := by
  induction pairs with
  | nil => simp [itemAt?]
  | cons pair rest ih =>
      rcases pair with ⟨oldKey, oldItem⟩
      rcases List.nodup_cons.mp distinct with ⟨isFirst, restDistinct⟩
      have restListed := ih restDistinct
      simp only [itemAt?] at restListed ⊢
      cases asked : key.sameKey oldKey query with
      | true =>
          have equal := (exact oldKey query).mp asked
          subst equal
          have notLater : (oldKey, value) ∉ rest := by
            intro later
            exact isFirst (List.mem_map.mpr ⟨_, later, rfl⟩)
          simp [asked, notLater, eq_comm]
      | false =>
          have different : query ≠ oldKey := by
            intro equal
            rw [(exact oldKey query).mpr equal.symm] at asked
            cases asked
          simp [asked, different, restListed]

variable {convertKey : Arg → Except ConversionError key.Carrier}
  {convertItem : Arg → Except ConversionError item.Carrier}

/-- After converting pairs, a key has the item of the last pair whose argument becomes the key. -/
theorem itemAt?_convertPairs (exact : key.ExactKeys) {query : key.Carrier} {isQuery : Arg → Bool}
    (spells : ∀ arg found, convertKey arg = .ok found → isQuery arg = key.sameKey found query)
    {pairs : List (Arg × Arg)} {done result : List (key.Carrier × item.Carrier)}
    (converted : convertPairs convertKey convertItem pairs done = .ok result) :
    itemAt? key item query result =
      match (pairs.filter fun pair => isQuery pair.1).getLast? with
      | some pair => (convertItem pair.2).toOption
      | none => itemAt? key item query done := by
  induction pairs generalizing done with
  | nil =>
      cases converted
      rfl
  | cons pair rest ih =>
      rcases pair with ⟨keyArg, itemArg⟩
      simp only [convertPairs] at converted
      split at converted
      · cases converted
      · rename_i newKey keyConverted
        split at converted
        · cases converted
        · rename_i newItem itemConverted
          rw [ih converted, itemAt?_insertPair exact, ← spells keyArg newKey keyConverted]
          cases asked : isQuery keyArg with
          | true =>
              simp only [List.filter_cons, asked, if_true, List.getLast?_cons]
              cases (rest.filter fun pair => isQuery pair.1).getLast? with
              | none => simp [itemConverted, Except.toOption]
              | some later => rfl
          | false => simp [asked]

theorem nodup_convertPairs (exact : key.ExactKeys) {pairs : List (Arg × Arg)}
    {done result : List (key.Carrier × item.Carrier)} (distinct : (done.map Prod.fst).Nodup)
    (converted : convertPairs convertKey convertItem pairs done = .ok result) :
    (result.map Prod.fst).Nodup := by
  induction pairs generalizing done with
  | nil =>
      cases converted
      exact distinct
  | cons pair rest ih =>
      simp only [convertPairs] at converted
      split at converted
      · cases converted
      · split at converted
        · cases converted
        · exact ih (nodup_insertPair exact _ _ distinct) converted

end NativeType

/-! ## The pairs that are converted -/

/-- What holds of no items, and of an item with others if it holds of the others that are unlike
it, holds of all lists of items. -/
theorem eraseDups_induction {Item : Type} [BEq Item] {motive : List Item → Prop}
    (nil : motive [])
    (cons : ∀ first rest, motive (rest.filter fun later => !later == first) →
      motive (first :: rest))
    (items : List Item) : motive items := by
  induction length : items.length using Nat.strongRecOn generalizing items with
  | ind bound ih =>
      cases items with
      | nil => exact nil
      | cons first rest =>
          have shorter : (rest.filter fun later => !later == first).length < bound := by
            rw [← length, List.length_cons]
            exact Nat.lt_succ_of_le (List.length_filter_le _ _)
          exact cons first rest (ih _ shorter _ rfl)

/-- Duplicates may be left out before or after picking items, if like items are picked alike. -/
theorem eraseDups_filter {Item : Type} [BEq Item] {pick : Item → Bool}
    (respects : ∀ left right, (left == right) = true → pick left = pick right)
    (items : List Item) : (items.filter pick).eraseDups = items.eraseDups.filter pick := by
  induction items using eraseDups_induction with
  | nil => rfl
  | cons first rest ih =>
      rw [List.eraseDups_cons, List.filter_cons, List.filter_cons, ← ih, List.filter_filter]
      cases picked : pick first with
      | true => simp only [if_true, List.eraseDups_cons, List.filter_filter, Bool.and_comm]
      | false =>
          have unlike : ∀ later, (pick later && !later == first) = pick later := by
            intro later
            cases like : later == first with
            | true => simp [respects later first like, picked]
            | false => simp
          simp only [unlike, Bool.false_eq_true, if_false]

/-- Duplicates may be left out before or after items are turned into others, if different items
are turned into different ones. -/
theorem eraseDups_map {Item Other : Type} [BEq Item] [BEq Other] {convert : Item → Other}
    (injective : ∀ left right, (convert left == convert right) = (left == right))
    (items : List Item) : (items.map convert).eraseDups = items.eraseDups.map convert := by
  induction items using eraseDups_induction with
  | nil => rfl
  | cons first rest ih =>
      rw [List.map_cons, List.eraseDups_cons, List.eraseDups_cons, List.map_cons, ← ih,
        List.filter_map]
      simp only [Function.comp_def, injective]

namespace ArgMap

/-- Among the keys of a kind, the last pair of a map is the one of the key that was the last to
come in for the first time, and has what this key was given last. -/
theorem getLast?_filter_toList_ofList {isQuery : Arg → Bool}
    (respects : ∀ left right, left.same right = true → isQuery left = isQuery right)
    (inserted : List (Arg × Arg)) :
    (((ofList inserted).toList.filter fun pair => isQuery pair.1).getLast?).map Prod.snd =
      (((inserted.map Prod.fst).filter isQuery).eraseDups.getLast?).bind fun newest =>
        ((inserted.filter fun pair => pair.1.same newest).getLast?).map Prod.snd := by
  have sameKeys : ((ofList inserted).toList.filter fun pair => isQuery pair.1).map Prod.fst =
      ((inserted.map Prod.fst).filter isQuery).eraseDups := by
    rw [eraseDups_filter respects, ← keys_ofList, keys, List.filter_map]
    rfl
  rw [← sameKeys, List.getLast?_map]
  cases last : ((ofList inserted).toList.filter fun pair => isQuery pair.1).getLast? with
  | none => rfl
  | some pair =>
      have listed : pair ∈ (ofList inserted).toList :=
        (List.mem_filter.mp (List.mem_of_getLast? last)).1
      rw [Option.map_some, Option.map_some, Option.bind_some, ← find?_ofList,
        find?_of_mem (indexed_ofList inserted) listed]

end ArgMap

namespace NativeType

/-- What a native map has for a key, read off the insertions of the arguments that it is converted
from. -/
theorem itemAt?_ofArg_map {key item : NativeType} (exact : key.ExactKeys) {query : key.Carrier}
    {isQuery : Arg → Bool}
    (spells : ∀ arg found, key.ofArg arg = .ok found → isQuery arg = key.sameKey found query)
    (respects : ∀ left right, left.same right = true → isQuery left = isQuery right)
    {inserted : List (Arg × Arg)} {pairs : List (key.Carrier × item.Carrier)}
    (converted : (map key item).ofArg (ArgMap.ofList inserted).toArg = .ok pairs) :
    itemAt? key item query pairs =
      (((inserted.map Prod.fst).filter isQuery).eraseDups.getLast?).bind fun newest =>
        ((inserted.filter fun pair => pair.1.same newest).getLast?).bind fun pair =>
          (item.ofArg pair.2).toOption := by
  have last := congrArg (fun found => found.bind fun arg => (item.ofArg arg).toOption)
    (ArgMap.getLast?_filter_toList_ofList respects inserted)
  simp only [Option.bind_assoc, Option.bind_map, Function.comp_def] at last
  rw [itemAt?_convertPairs exact spells converted, ← last]
  cases ((ArgMap.ofList inserted).toList.filter fun pair => isQuery pair.1).getLast? <;> rfl

end NativeType

end ScriptBridge
