import Mathlib.Data.List.Induction
import Mathlib.Data.Set.Card
import ScriptBridge.Proofs.Arg.Map

/-!
# Maps of arguments by their insertions

A map of arguments is built by insertions, and everything that it answers can be read off them.
The first insertion of a key decides the place and the spelling of its pair, the last one its
value.  `ArgMap.Represents` says so of the pairs, of the index beside them, and of the map without
an order that they are poured into.
-/

namespace ScriptBridge

namespace Arg

theorem same_equivalence : Equivalence fun left right : Arg => left.same right = true :=
  ⟨same_refl, same_symm, same_trans⟩

/-- Arguments up to their equality. -/
def setoid : Setoid Arg :=
  ⟨fun left right => left.same right = true, same_equivalence⟩

theorem same_comm (left right : Arg) : left.same right = right.same left := by
  change (left == right) = (right == left)
  exact BEq.comm

theorem same_congr_left {left right : Arg} (same : left.same right = true) (third : Arg) :
    left.same third = right.same third := by
  change (left == third) = (right == third)
  exact BEq.congr_left same

/-- A written key has the written value, every other key what it had. -/
theorem find?_writePair (key query value : Arg) (pairs : List (Arg × Arg)) :
    ((writePair key value pairs).find? (·.1.same query)).map Prod.snd =
      if key.same query then some value
      else (pairs.find? (·.1.same query)).map Prod.snd := by
  induction pairs with
  | nil => cases asked : key.same query <;> simp [writePair, asked]
  | cons pair rest ih =>
      rcases pair with ⟨found, old⟩
      by_cases isKey : found.same key = true
      · have alike := same_congr_left isKey query
        cases asked : key.same query <;> simp [writePair, isKey, alike, asked]
      · cases foundAsked : found.same query with
        | true =>
            have other : key.same query = false := by
              rw [Bool.eq_false_iff]
              intro asked
              exact isKey (same_trans foundAsked (same_symm asked))
            simp [writePair, isKey, foundAsked, other]
        | false => simp [writePair, isKey, foundAsked, ih]

end Arg

namespace ArgMap

/-! ## One insertion -/

/-- The pair at the place of the first key that is the same. -/
theorem getElem?_findIdx?_keys (pairs : List (Arg × Arg)) (key : Arg) :
    (((pairs.map Prod.fst).findIdx? (·.same key)).bind fun place => pairs[place]?) =
      pairs.find? (·.1.same key) := by
  induction pairs with
  | nil => rfl
  | cons pair rest ih =>
      cases isKey : pair.1.same key with
      | true => simp [List.findIdx?_cons, isKey]
      | false => simpa [List.findIdx?_cons, isKey, Option.bind_map, Function.comp_def] using ih

theorem find?_eq {map : ArgMap} (indexed : map.Indexed) (key : Arg) :
    map.find? key = (map.toList.find? (·.1.same key)).map Prod.snd := by
  rw [find?, indexed.place key, ← getElem?_findIdx?_keys, Option.map_bind]
  simp only [keys, toList, Function.comp_def, Array.getElem?_toList]

theorem find?_insert {map : ArgMap} (indexed : map.Indexed) (key value query : Arg) :
    (map.insert key value).find? query =
      if key.same query then some value else map.find? query := by
  rw [find?_eq (indexed_insert indexed key value), toList_insert indexed, Arg.find?_writePair,
    find?_eq indexed]

theorem absent_iff {map : ArgMap} (indexed : map.Indexed) (key : Arg) :
    map.index[key]? = none ↔ ∀ found ∈ map.keys, found.same key = false := by
  rw [indexed.place key, List.findIdx?_eq_none_iff]

theorem size_index_insert {map : ArgMap} (inStep : map.index.size = map.size) (key value : Arg) :
    (map.insert key value).index.size = (map.insert key value).size := by
  cases looked : map.index[key]? with
  | none =>
      have fresh : key ∉ map.index := by
        simpa using looked
      simpa [insert, looked, size, Std.HashMap.size_insert, fresh] using inStep
  | some place => simpa [insert, looked, size] using inStep

/-! ## Many insertions -/

theorem ofList_append_singleton (inserted : List (Arg × Arg)) (pair : Arg × Arg) :
    ofList (inserted ++ [pair]) = (ofList inserted).insert pair.1 pair.2 := by
  simp only [ofList, List.foldl_append, List.foldl_cons, List.foldl_nil]

theorem indexed_ofList (inserted : List (Arg × Arg)) : (ofList inserted).Indexed := by
  induction inserted using List.reverseRecOn with
  | nil => exact indexed_empty
  | append_singleton inserted pair ih =>
      rw [ofList_append_singleton]
      exact indexed_insert ih _ _

theorem size_index_ofList (inserted : List (Arg × Arg)) :
    (ofList inserted).index.size = (ofList inserted).size := by
  induction inserted using List.reverseRecOn with
  | nil => rfl
  | append_singleton inserted pair ih =>
      rw [ofList_append_singleton]
      exact size_index_insert ih _ _

theorem find?_ofList (inserted : List (Arg × Arg)) (key : Arg) :
    (ofList inserted).find? key =
      ((inserted.filter (·.1.same key)).getLast?).map Prod.snd := by
  induction inserted using List.reverseRecOn with
  | nil => simp [ofList, find?, empty]
  | append_singleton inserted pair ih =>
      rw [ofList_append_singleton, find?_insert (indexed_ofList inserted), ih]
      cases isKey : pair.1.same key <;> simp [isKey]

theorem keys_insertAll {map : ArgMap} (indexed : map.Indexed) (inserted : List (Arg × Arg)) :
    (inserted.foldl (fun map pair => map.insert pair.1 pair.2) map).keys =
      map.keys ++ ((inserted.map Prod.fst).filter fun key =>
        !map.keys.any (·.same key)).eraseDups := by
  induction inserted generalizing map with
  | nil => simp
  | cons pair rest ih =>
      rcases pair with ⟨key, value⟩
      rw [List.foldl_cons, ih (indexed_insert indexed key value), List.map_cons]
      cases looked : map.index[key]? with
      | none =>
          have absent : map.keys.any (·.same key) = false := by
            simpa using (absent_iff indexed key).mp looked
          rw [keys_insert_of_absent value looked, List.filter_cons_of_pos (by simp [absent]),
            List.eraseDups_cons, List.filter_filter, List.append_assoc, List.singleton_append]
          congr 4
          funext later
          have swapped : (later == key) = key.same later := Arg.same_comm later key
          simp [swapped, Bool.and_comm]
      | some place =>
          have present : map.keys.any (·.same key) = true := by
            rw [← Bool.not_eq_false]
            intro absent
            rw [(absent_iff indexed key).mpr (by simpa using absent)] at looked
            cases looked
          rw [keys_insert_of_present value looked, List.filter_cons_of_neg (by simp [present])]

theorem keys_ofList (inserted : List (Arg × Arg)) :
    (ofList inserted).keys = (inserted.map Prod.fst).eraseDups := by
  rw [ofList, keys_insertAll indexed_empty]
  simp [keys, toList, empty]

/-! ## The map without an order -/

theorem toHashMap_eq (map : ArgMap) : map.toHashMap = .ofList map.toList := by
  have poured (table : Std.HashMap Arg Arg) (pairs : List (Arg × Arg)) :
      pairs.foldl (fun table pair => table.insert pair.1 pair.2) table =
        table.insertMany pairs := by
    induction pairs generalizing table with
    | nil => simp
    | cons pair rest ih => rw [List.foldl_cons, ih, Std.HashMap.insertMany_cons]
  rw [toHashMap, ← Array.foldl_toList, poured, Std.HashMap.ofList_eq_insertMany_empty, toList]

theorem distinct_toList {map : ArgMap} (indexed : map.Indexed) :
    map.toList.Pairwise fun earlier later => (earlier.1 == later.1) = false :=
  List.pairwise_map.mp indexed.distinct

theorem getElem?_toHashMap {map : ArgMap} (indexed : map.Indexed) (key : Arg) :
    map.toHashMap[key]? = map.find? key := by
  rw [toHashMap_eq, find?_eq indexed]
  cases found : map.toList.find? (·.1.same key) with
  | none =>
      apply Std.HashMap.getElem?_ofList_of_contains_eq_false
      rw [← Bool.not_eq_true, List.contains_iff_exists_mem_beq]
      rintro ⟨listed, listedMem, isKey⟩
      rcases List.mem_map.mp listedMem with ⟨pair, pairMem, rfl⟩
      exact List.find?_eq_none.mp found pair pairMem (Arg.same_symm isKey)
  | some pair =>
      have isKey : pair.1.same key = true := by simpa using List.find?_some found
      exact Std.HashMap.getElem?_ofList_of_mem isKey (distinct_toList indexed)
        (List.mem_of_find?_eq_some found)

theorem size_toHashMap {map : ArgMap} (indexed : map.Indexed) :
    map.toHashMap.size = map.size := by
  rw [toHashMap_eq, Std.HashMap.size_ofList (distinct_toList indexed)]
  simp [toList, size]

/-! ## What a map represents -/

/-- Everything that a map answers, read off the insertions that it is built by. -/
structure Represents (map : ArgMap) (inserted : List (Arg × Arg)) : Prop where
  distinct : map.keys.Pairwise fun earlier later => earlier.same later = false
  /-- The index leads from every key to the place of its pair. -/
  index : ∀ (key : Arg) (place : Nat), map.index[key]? = some place ↔
    ∃ pair, map.pairs[place]? = some pair ∧ pair.1.same key = true
  indexSize : map.index.size = map.size
  size : map.size =
    Set.ncard {key | ∃ pair ∈ inserted, key = Quotient.mk Arg.setoid pair.1}
  find : ∀ key, map.find? key = ((inserted.filter (·.1.same key)).getLast?).map Prod.snd
  /-- The keys are in order of first insertion and spelled as they were then. -/
  keys : map.keys = (inserted.map Prod.fst).eraseDups
  /-- Every key is listed with the last value inserted for it. -/
  values : ∀ pair ∈ map.toList,
    ((inserted.filter (·.1.same pair.1)).getLast?).map Prod.snd = some pair.2
  hashSize : map.toHashMap.size = map.size
  hashFind : ∀ key, map.toHashMap[key]? = map.find? key

theorem index_eq_some_iff {map : ArgMap} (indexed : map.Indexed) (key : Arg) (place : Nat) :
    map.index[key]? = some place ↔
      ∃ pair, map.pairs[place]? = some pair ∧ pair.1.same key = true := by
  have stored (pair : Arg × Arg) :
      map.pairs[place]? = some pair ↔ map.toList[place]? = some pair := by
    simp only [toList, Array.getElem?_toList]
  simp only [indexed.place key, stored, List.findIdx?_eq_some_iff_getElem, keys, List.getElem_map]
  constructor
  · rintro ⟨within, isKey, -⟩
    rw [List.length_map] at within
    exact ⟨map.toList[place], List.getElem?_eq_getElem within, isKey⟩
  · rintro ⟨pair, listed, isKey⟩
    rcases List.getElem?_eq_some_iff.mp listed with ⟨within, rfl⟩
    refine ⟨by simpa using within, isKey, ?_⟩
    intro earlier before earlierIsKey
    -- Two stored keys would be the same.
    have distinct := List.pairwise_iff_getElem.mp (distinct_toList indexed) earlier place
      (by omega) within before
    have same := Arg.same_trans earlierIsKey (Arg.same_symm isKey)
    exact absurd same (Bool.not_eq_true _ ▸ distinct)

theorem find?_of_mem {map : ArgMap} (indexed : map.Indexed) {pair : Arg × Arg}
    (listed : pair ∈ map.toList) : map.find? pair.1 = some pair.2 := by
  rw [← getElem?_toHashMap indexed, toHashMap_eq]
  exact Std.HashMap.getElem?_ofList_of_mem (Arg.same_refl pair.1) (distinct_toList indexed) listed

/-- Stored keys and inserted keys are the same up to the equality of arguments. -/
theorem exists_key_iff (inserted : List (Arg × Arg)) (key : Arg) :
    (∃ found ∈ (ofList inserted).keys, found.same key = true) ↔
      ∃ pair ∈ inserted, pair.1.same key = true := by
  have answered : ((ofList inserted).find? key).isSome =
      (((inserted.filter (·.1.same key)).getLast?).map Prod.snd).isSome := by
    rw [find?_ofList]
  rw [find?_eq (indexed_ofList inserted), Option.isSome_map, Option.isSome_map,
    List.getLast?_filter, Bool.eq_iff_iff, List.find?_isSome, List.find?_isSome] at answered
  simpa [keys] using answered

/-- A map has as many pairs as different keys were inserted. -/
theorem size_ofList (inserted : List (Arg × Arg)) :
    (ofList inserted).size =
      Set.ncard {key | ∃ pair ∈ inserted, key = Quotient.mk Arg.setoid pair.1} := by
  classical
  let classes : List (Quotient Arg.setoid) := (ofList inserted).keys.map (Quotient.mk Arg.setoid)
  have nodup : classes.Nodup := by
    apply List.Pairwise.map _ _ (indexed_ofList inserted).distinct
    intro earlier later different equal
    rw [Quotient.exact equal] at different
    cases different
  have sameClasses : {key | ∃ pair ∈ inserted, key = Quotient.mk Arg.setoid pair.1} =
      (classes.toFinset : Set (Quotient Arg.setoid)) := by
    ext key
    induction key using Quotient.inductionOn with
    | h key =>
        have stored := exists_key_iff inserted key
        simp only [Set.mem_ofPred_eq, List.coe_toFinset, classes, List.mem_map]
        constructor
        · rintro ⟨pair, pairMem, equal⟩
          rcases stored.mpr ⟨pair, pairMem, Quotient.exact equal.symm⟩ with ⟨found, foundMem, same⟩
          exact ⟨found, foundMem, Quotient.sound same⟩
        · rintro ⟨found, foundMem, equal⟩
          rcases stored.mp ⟨found, foundMem, Quotient.exact equal⟩ with ⟨pair, pairMem, same⟩
          exact ⟨pair, pairMem, (Quotient.sound same).symm⟩
  rw [sameClasses, Set.ncard_coe_finset, List.toFinset_card_of_nodup nodup]
  simp [classes, keys, toList, size]

/-- Equality of arguments is an equivalence, and after any insertions into an empty map the map
represents them. -/
theorem represents_ofList :
    (Equivalence fun left right : Arg => left.same right = true) ∧
      ∀ inserted, (ofList inserted).Represents inserted := by
  refine ⟨Arg.same_equivalence, ?_⟩
  intro inserted
  have indexed := indexed_ofList inserted
  constructor
  · exact indexed.distinct
  · exact index_eq_some_iff indexed
  · exact size_index_ofList inserted
  · exact size_ofList inserted
  · exact find?_ofList inserted
  · exact keys_ofList inserted
  · intro pair listed
    rw [← find?_ofList, find?_of_mem indexed listed]
  · exact size_toHashMap indexed
  · exact getElem?_toHashMap indexed

end ArgMap

end ScriptBridge
