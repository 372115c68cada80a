import ScriptBridge.Proofs.Arg.Equality

/-!
# Maps of arguments as lists of pairs

The view of an `ArgMap` is its list of pairs.  `Arg.writePair` is writing a key on that
view: the pair of the key, if there is one, gets the value in its place, and otherwise a
new pair goes to the end.  The index plays no part in it.

`ArgMap.Indexed` ties the index to the pairs: no two keys are the same, and the index leads
from a key to the place of its pair.  Every map that is built by insertions is indexed, and
on an indexed map `insert` is `writePair`.
-/

namespace ScriptBridge

namespace Arg

/-- The pairs after a key is given a value, in place of the one it has. -/
def writePair (key value : Arg) : List (Arg × Arg) → List (Arg × Arg)
  | [] => [(key, value)]
  | (found, old) :: rest =>
      if found.same key then (found, value) :: rest
      else (found, old) :: writePair key value rest

theorem writePair_of_findIdx?_eq_none {key : Arg} (value : Arg) {pairs : List (Arg × Arg)}
    (absent : (pairs.map Prod.fst).findIdx? (·.same key) = none) :
    writePair key value pairs = pairs ++ [(key, value)] := by
  induction pairs with
  | nil => rfl
  | cons pair rest ih =>
      rcases pair with ⟨found, old⟩
      simp only [List.map_cons, List.findIdx?_cons] at absent
      split at absent
      · contradiction
      · rename_i different
        simp only [writePair, different, List.cons_append]
        simp [ih (by simpa using absent)]

theorem writePair_of_findIdx?_eq_some {key : Arg} (value : Arg) {pairs : List (Arg × Arg)}
    {place : Nat} (found : (pairs.map Prod.fst).findIdx? (·.same key) = some place) :
    writePair key value pairs = pairs.modify place fun pair => (pair.1, value) := by
  induction pairs generalizing place with
  | nil => simp at found
  | cons pair rest ih =>
      rcases pair with ⟨first, old⟩
      simp only [List.map_cons, List.findIdx?_cons] at found
      split at found
      · rename_i same
        have isFirst : 0 = place := by simpa using found
        subst isFirst
        simp [writePair, same]
      · rename_i different
        rcases Option.map_eq_some_iff.mp found with ⟨place, foundLater, rfl⟩
        simp [writePair, different, ih foundLater]

/-- Writing a key that no pair has yet puts its pair at the end. -/
theorem writePair_of_forall_not_same {key : Arg} (value : Arg) {pairs : List (Arg × Arg)}
    (absent : ∀ pair ∈ pairs, pair.1.same key = false) :
    writePair key value pairs = pairs ++ [(key, value)] := by
  apply writePair_of_findIdx?_eq_none
  simpa [List.findIdx?_eq_none_iff] using fun first second => absent (first, second)

/-- After writing a pair, every key is the written one or an old one, and so is every
value. -/
theorem mem_writePair {key value : Arg} {pairs : List (Arg × Arg)} {pair : Arg × Arg}
    (member : pair ∈ writePair key value pairs) :
    (pair.1 = key ∨ ∃ old ∈ pairs, old.1 = pair.1) ∧
      (pair.2 = value ∨ ∃ old ∈ pairs, old.2 = pair.2) := by
  induction pairs with
  | nil =>
      have isNew : pair = (key, value) := by simpa [writePair] using member
      subst isNew
      exact ⟨Or.inl rfl, Or.inl rfl⟩
  | cons first rest ih =>
      rcases first with ⟨found, old⟩
      simp only [writePair] at member
      split at member
      · rcases List.mem_cons.mp member with rfl | later
        · exact ⟨Or.inr ⟨(found, old), by simp⟩, Or.inl rfl⟩
        · exact ⟨Or.inr ⟨pair, by simp [later]⟩, Or.inr ⟨pair, by simp [later]⟩⟩
      · rcases List.mem_cons.mp member with rfl | later
        · exact ⟨Or.inr ⟨(found, old), by simp⟩, Or.inr ⟨(found, old), by simp⟩⟩
        · rcases ih later with ⟨keyFrom, valueFrom⟩
          constructor
          · exact keyFrom.imp_right fun ⟨old, oldMem, equal⟩ => ⟨old, by simp [oldMem], equal⟩
          · exact valueFrom.imp_right fun ⟨old, oldMem, equal⟩ => ⟨old, by simp [oldMem], equal⟩

end Arg

namespace ArgMap

/-- The keys in order of insertion. -/
def keys (map : ArgMap) : List Arg :=
  map.toList.map Prod.fst

/-- The index of a map agrees with its pairs. -/
structure Indexed (map : ArgMap) : Prop where
  /-- No two keys are the same. -/
  distinct : map.keys.Pairwise fun earlier later => earlier.same later = false
  /-- The index leads from a key to the place of its pair. -/
  place : ∀ key, map.index[key]? = map.keys.findIdx? (·.same key)

theorem indexed_empty : empty.Indexed where
  distinct := by simp [keys, toList, empty]
  place key := by simp [keys, toList, empty]

theorem toList_insert {map : ArgMap} (indexed : map.Indexed) (key value : Arg) :
    (map.insert key value).toList = Arg.writePair key value map.toList := by
  have placed := indexed.place key
  unfold insert
  cases looked : map.index[key]? with
  | none =>
      rw [Arg.writePair_of_findIdx?_eq_none value (placed.symm.trans looked)]
      simp [toList]
  | some place =>
      rw [Arg.writePair_of_findIdx?_eq_some value (placed.symm.trans looked)]
      simp [toList]

theorem keys_insert_of_absent {map : ArgMap} {key : Arg} (value : Arg)
    (absent : map.index[key]? = none) : (map.insert key value).keys = map.keys ++ [key] := by
  simp [keys, insert, toList, absent]

theorem keys_insert_of_present {map : ArgMap} {key : Arg} (value : Arg) {place : Nat}
    (present : map.index[key]? = some place) : (map.insert key value).keys = map.keys := by
  simp only [keys, insert, toList, present, Array.toList_modify]
  apply List.ext_getElem?
  intro position
  by_cases equal : place = position <;> simp [equal, Function.comp_def]

theorem indexed_insert {map : ArgMap} (indexed : map.Indexed) (key value : Arg) :
    (map.insert key value).Indexed := by
  cases looked : map.index[key]? with
  | none =>
      have absent : ∀ found ∈ map.keys, found.same key = false := by
        simpa using (indexed.place key).symm.trans looked
      refine ⟨?_, ?_⟩
      · rw [keys_insert_of_absent value looked, List.pairwise_append]
        exact ⟨indexed.distinct, by simp, by simpa using absent⟩
      · intro query
        rw [keys_insert_of_absent value looked, List.findIdx?_append, ← indexed.place query]
        have pushed : (map.insert key value).index = map.index.insert key map.keys.length := by
          simp [insert, looked, keys, toList]
        rw [pushed, Std.HashMap.getElem?_insert]
        by_cases same : (key == query) = true
        · rw [← Std.HashMap.getElem?_congr same, looked]
          have same' : key.same query = true := same
          simp [same, same']
        · have different : ¬key.same query = true := same
          simp [same, different]
  | some place =>
      have kept : (map.insert key value).index = map.index := by
        simp [insert, looked]
      refine ⟨?_, ?_⟩
      · rw [keys_insert_of_present value looked]
        exact indexed.distinct
      · intro query
        rw [keys_insert_of_present value looked, kept]
        exact indexed.place query

end ArgMap

end ScriptBridge
