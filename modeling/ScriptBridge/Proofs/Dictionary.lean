import Mathlib.Data.List.Induction
import Mathlib.Data.List.Nodup
import ScriptBridge.Dictionary

/-!
# Dictionaries filled from lists

What `Dictionary.insertAll` and `Dictionary.ofList` leave.  Nothing comes in but the entries of
the list, and every dictionary that is made from a list lists each key once, with the item of the
last entry for it.  Such a dictionary put over another one wins at its own keys and leaves the
others as they are, and two of them are the same map if one lists the entries of the other in some
order (`perm_iff_find?`).
-/

namespace ScriptBridge.Dictionary

variable {Key Item : Type} [DecidableEq Key]

/-! ## What comes in -/

theorem mem_insertInto {key : Key} {item : Item} {entries : List (Key × Item)}
    {entry : Key × Item} (member : entry ∈ insertInto key item entries) :
    entry = (key, item) ∨ entry ∈ entries := by
  induction entries with
  | nil =>
      left
      simpa [insertInto] using member
  | cons first rest ih =>
      rcases first with ⟨found, old⟩
      simp only [insertInto] at member
      split at member
      · rename_i isKey
        subst isKey
        rcases List.mem_cons.mp member with isNew | later
        · exact Or.inl isNew
        · exact Or.inr (List.mem_cons_of_mem _ later)
      · rcases List.mem_cons.mp member with isOld | later
        · right
          rw [isOld]
          exact List.mem_cons_self
        · rcases ih later with isNew | inRest
          · exact Or.inl isNew
          · exact Or.inr (List.mem_cons_of_mem _ inRest)

/-- An entry of a dictionary that a list is inserted into was there or is in the list. -/
theorem mem_entries_insertAll {dictionary : Dictionary Key Item} {entries : List (Key × Item)}
    {entry : Key × Item} (member : entry ∈ (dictionary.insertAll entries).entries) :
    entry ∈ dictionary.entries ∨ entry ∈ entries := by
  induction entries generalizing dictionary with
  | nil => exact Or.inl member
  | cons first rest ih =>
      rcases ih member with inserted | later
      · rcases mem_insertInto inserted with isFirst | old
        · right
          rw [isFirst]
          exact List.mem_cons_self
        · exact Or.inl old
      · exact Or.inr (List.mem_cons_of_mem _ later)

theorem mem_of_findIn {key : Key} {item : Item} {entries : List (Key × Item)}
    (found : findIn key entries = some item) : (key, item) ∈ entries := by
  induction entries with
  | nil => cases found
  | cons first rest ih =>
      rcases first with ⟨other, old⟩
      simp only [findIn] at found
      split at found
      · rename_i isKey
        rw [← isKey, ← Option.some.inj found]
        exact List.mem_cons_self
      · exact List.mem_cons_of_mem _ (ih found)

/-! ## Each key once -/

/-- No key is listed twice. -/
def Distinct (dictionary : Dictionary Key Item) : Prop :=
  (dictionary.entries.map Prod.fst).Nodup

theorem mem_keys_insertInto {key query : Key} {item : Item} {entries : List (Key × Item)}
    (member : query ∈ (insertInto key item entries).map Prod.fst) :
    query = key ∨ query ∈ entries.map Prod.fst := by
  rcases List.mem_map.mp member with ⟨entry, entryMem, rfl⟩
  rcases mem_insertInto entryMem with rfl | old
  · exact Or.inl rfl
  · exact Or.inr (List.mem_map_of_mem old)

theorem nodup_insertInto {key : Key} {item : Item} {entries : List (Key × Item)}
    (distinct : (entries.map Prod.fst).Nodup) :
    ((insertInto key item entries).map Prod.fst).Nodup := by
  induction entries with
  | nil => simp [insertInto]
  | cons first rest ih =>
      rcases first with ⟨found, old⟩
      simp only [List.map_cons, List.nodup_cons] at distinct
      simp only [insertInto]
      split
      · simpa using distinct
      · rename_i notKey
        simp only [List.map_cons, List.nodup_cons]
        refine ⟨?_, ih distinct.2⟩
        intro again
        rcases mem_keys_insertInto again with isKey | inRest
        · exact notKey isKey
        · exact distinct.1 inRest

theorem distinct_insertAll {dictionary : Dictionary Key Item} (distinct : dictionary.Distinct)
    (entries : List (Key × Item)) : (dictionary.insertAll entries).Distinct := by
  induction entries generalizing dictionary with
  | nil => exact distinct
  | cons first rest ih =>
      apply ih
      exact nodup_insertInto distinct

/-- A dictionary that is made from a list lists each key once, however often the list does. -/
theorem distinct_ofList (entries : List (Key × Item)) : (ofList entries).Distinct := by
  apply distinct_insertAll
  exact List.nodup_nil

/-! ## Order of the entries -/

/-- A dictionary that lists each key once finds what it lists. -/
theorem find?_eq_some_iff_mem {dictionary : Dictionary Key Item} (distinct : dictionary.Distinct)
    {key : Key} {item : Item} :
    dictionary.find? key = some item ↔ (key, item) ∈ dictionary.entries := by
  constructor
  · exact mem_of_findIn
  · rcases dictionary with ⟨entries⟩
    intro member
    simp only [find?] at member ⊢
    induction entries with
    | nil => cases member
    | cons first rest ih =>
        rcases first with ⟨found, old⟩
        simp only [Distinct, List.map_cons, List.nodup_cons] at distinct
        rcases List.mem_cons.mp member with isFirst | later
        · cases isFirst
          simp [findIn]
        · have other : found ≠ key := by
            rintro rfl
            exact distinct.1 (List.mem_map_of_mem later)
          simpa [findIn, other] using ih distinct.2 later

/-- Of two dictionaries that list each key once, one lists the entries of the other in some order
exactly if every key has the same item in both. -/
theorem perm_iff_find? {left right : Dictionary Key Item} (leftDistinct : left.Distinct)
    (rightDistinct : right.Distinct) :
    left.entries.Perm right.entries ↔ ∀ key, left.find? key = right.find? key := by
  rw [List.perm_ext_iff_of_nodup leftDistinct.of_map rightDistinct.of_map]
  constructor
  · intro listed key
    apply Option.ext
    intro item
    rw [find?_eq_some_iff_mem leftDistinct, find?_eq_some_iff_mem rightDistinct]
    exact listed (key, item)
  · rintro found ⟨key, item⟩
    rw [← find?_eq_some_iff_mem leftDistinct, ← find?_eq_some_iff_mem rightDistinct, found]

/-! ## Histories -/

theorem ofList_append_singleton (entries : List (Key × Item)) (entry : Key × Item) :
    ofList (entries ++ [entry]) = (ofList entries).insert entry.1 entry.2 := by
  simp only [ofList, insertAll, List.foldl_append, List.foldl_cons, List.foldl_nil]

/-- A key has the item of the last entry that the list has for it. -/
theorem find?_ofList_eq_some_iff (entries : List (Key × Item)) (key : Key) (item : Item) :
    (ofList entries).find? key = some item ↔
      (entries.filter (·.1 = key)).getLast? = some (key, item) := by
  induction entries using List.reverseRecOn with
  | nil => simp [ofList, insertAll, empty, find?, findIn]
  | append_singleton entries entry ih =>
      rcases entry with ⟨found, last⟩
      rw [ofList_append_singleton, find?_insert]
      by_cases isKey : found = key
      · simp [isKey]
      · simpa [isKey] using ih

/-! ## Layers -/

theorem findIn_of_not_mem {key : Key} {entries : List (Key × Item)}
    (absent : key ∉ entries.map Prod.fst) : findIn key entries = none := by
  cases found : findIn key entries with
  | none => rfl
  | some item => exact absurd (List.mem_map_of_mem (mem_of_findIn found)) absent

/-- A dictionary that lists each key once, put over another one, wins at its own keys and leaves
the others as they are. -/
theorem find?_insertAll {dictionary layer : Dictionary Key Item} (distinct : layer.Distinct)
    (key : Key) :
    (dictionary.insertAll layer.entries).find? key =
      (layer.find? key).or (dictionary.find? key) := by
  rcases layer with ⟨entries⟩
  induction entries generalizing dictionary with
  | nil => rfl
  | cons first rest ih =>
      rcases first with ⟨found, item⟩
      simp only [Distinct, List.map_cons, List.nodup_cons] at distinct
      have later : (insertAll (dictionary.insert found item) rest).find? key =
          (findIn key rest).or ((dictionary.insert found item).find? key) := ih distinct.2
      change (insertAll (dictionary.insert found item) rest).find? key =
        (findIn key ((found, item) :: rest)).or (dictionary.find? key)
      rw [later, find?_insert, findIn]
      split
      · rename_i isKey
        subst isKey
        rw [findIn_of_not_mem distinct.1]
        rfl
      · rfl

end ScriptBridge.Dictionary
