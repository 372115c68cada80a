/-!
# Dictionaries

A finite map that lists its entries in the order in which their keys came in.  Writing a
key that is present replaces its value and moves nothing; a new key goes to the end.  The
view of a dictionary is `find?`; `find?_insert` and `find?_erase` say what the two
operations do to it.
-/

namespace ScriptBridge

/-- A finite map with its entries in order of insertion. -/
structure Dictionary (Key Item : Type) where
  entries : List (Key × Item)
deriving DecidableEq, Repr

namespace Dictionary

variable {Key Item : Type}

/-- The dictionary without entries. -/
def empty : Dictionary Key Item :=
  ⟨[]⟩

instance : Inhabited (Dictionary Key Item) := ⟨empty⟩

/-- The number of entries. -/
def size (dictionary : Dictionary Key Item) : Nat :=
  dictionary.entries.length

variable [DecidableEq Key]

/-- The item that a key has in a list of entries. -/
def findIn (key : Key) : List (Key × Item) → Option Item
  | [] => none
  | (found, item) :: rest => if found = key then some item else findIn key rest

/-- The entries after a key is given an item. -/
def insertInto (key : Key) (item : Item) : List (Key × Item) → List (Key × Item)
  | [] => [(key, item)]
  | (found, old) :: rest =>
      if found = key then (found, item) :: rest
      else (found, old) :: insertInto key item rest

/-- The item of a key. -/
def find? (dictionary : Dictionary Key Item) (key : Key) : Option Item :=
  findIn key dictionary.entries

/-- Gives a key an item, in place of the one it has. -/
def insert (dictionary : Dictionary Key Item) (key : Key) (item : Item) :
    Dictionary Key Item :=
  ⟨insertInto key item dictionary.entries⟩

/-- Forgets a key. -/
def erase (dictionary : Dictionary Key Item) (key : Key) : Dictionary Key Item :=
  ⟨dictionary.entries.filter fun entry => decide (entry.1 ≠ key)⟩

/-- Inserts every entry of a list in turn. -/
def insertAll (dictionary : Dictionary Key Item) (entries : List (Key × Item)) :
    Dictionary Key Item :=
  entries.foldl (fun done entry => done.insert entry.1 entry.2) dictionary

/-- The dictionary of a list of entries; of two entries with one key the later item stays. -/
def ofList (entries : List (Key × Item)) : Dictionary Key Item :=
  empty.insertAll entries

theorem findIn_insertInto (key query : Key) (item : Item) (entries : List (Key × Item)) :
    findIn query (insertInto key item entries) =
      if key = query then some item else findIn query entries := by
  induction entries with
  | nil => simp [insertInto, findIn]
  | cons entry rest ih =>
      obtain ⟨found, old⟩ := entry
      by_cases foundIsKey : found = key
      · subst foundIsKey
        by_cases foundIsQuery : found = query <;> simp [insertInto, findIn, foundIsQuery]
      · by_cases foundIsQuery : found = query
        · subst foundIsQuery
          simp [insertInto, findIn, foundIsKey, Ne.symm foundIsKey]
        · simp [insertInto, findIn, foundIsKey, foundIsQuery, ih]

/-- A written key has the written item, every other key what it had. -/
theorem find?_insert (dictionary : Dictionary Key Item) (key query : Key) (item : Item) :
    (dictionary.insert key item).find? query =
      if key = query then some item else dictionary.find? query :=
  findIn_insertInto key query item dictionary.entries

/-- A forgotten key has no item, every other key what it had. -/
theorem find?_erase (dictionary : Dictionary Key Item) (key query : Key) :
    (dictionary.erase key).find? query =
      if key = query then none else dictionary.find? query := by
  obtain ⟨entries⟩ := dictionary
  simp only [find?, erase]
  induction entries with
  | nil => simp [findIn]
  | cons entry rest ih =>
      obtain ⟨found, item⟩ := entry
      by_cases foundIsKey : found = key
      · subst foundIsKey
        by_cases foundIsQuery : found = query <;> simp_all [findIn]
      · by_cases foundIsQuery : found = query
        · subst foundIsQuery
          simp [findIn, foundIsKey, Ne.symm foundIsKey]
        · simpa [findIn, foundIsKey, foundIsQuery] using ih

end Dictionary

end ScriptBridge
