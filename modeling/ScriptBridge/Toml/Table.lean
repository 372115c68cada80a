import ScriptBridge.Dictionary
import ScriptBridge.Toml.Value

/-!
# Tables under construction

A table is written piece by piece: by headers, by pairs under a header, and by keys with
dots.  How a table came about decides what may still be added to it, so that nothing is
ever defined twice: a header opens a table at most once, dotted keys reach only tables
that dotted keys made, and an inline table is complete as it stands.
-/

namespace ScriptBridge.Toml

/-- How a table came about. -/
inductive Origin where
  /-- It has a header of its own, or it is the whole document. -/
  | header
  /-- It was named on the way to another table and may still get its header. -/
  | implied
  /-- It was named on the way by a dotted key. -/
  | dotted
deriving DecidableEq

/-- What a key of a table under construction has. -/
inductive Node where
  /-- A value, which is complete. -/
  | value (value : Value)
  | table (origin : Origin) (entries : List (String × Node))
  /-- The tables of an array, the last one apart and those before it in reverse. -/
  | tables (earlier : List (List (String × Node))) (last : List (String × Node))

/-- A table under construction. -/
structure Table where
  origin : Origin
  entries : List (String × Node)

/-- A key with its dots: the keys on the way, and the last one. -/
structure KeyPath where
  way : List String
  last : String

/-- A key with its value. -/
structure Pair where
  key : KeyPath
  value : Value

namespace Table

/-- A table without entries. -/
def empty (origin : Origin) : Table :=
  ⟨origin, []⟩

/-- What a key has. -/
def find? (table : Table) (key : String) : Option Node :=
  Dictionary.findIn key table.entries

/-- Gives a key something else. -/
def set (table : Table) (key : String) (node : Node) : Table :=
  { table with entries := Dictionary.insertInto key node table.entries }

/-- The table as something that a key can have. -/
def toNode (table : Table) : Node :=
  .table table.origin table.entries

/-- Changes the table at the end of a way.  Missing tables on the way are made, of the
given origin; of an array the last table is meant.  Dotted keys do not enter a table that
has a header. -/
def changeAt (made : Origin) (change : Table → Option Table) :
    List String → Table → Option Table
  | [], table => change table
  | key :: way, table =>
      match table.find? key with
      | none =>
          (changeAt made change way (empty made)).map fun child => table.set key child.toNode
      | some (.value _) => none
      | some (.table origin entries) =>
          if made = .dotted ∧ origin = .header then none
          else
            (changeAt made change way ⟨origin, entries⟩).map fun child =>
              table.set key child.toNode
      | some (.tables earlier last) =>
          (changeAt made change way ⟨.header, last⟩).map fun child =>
            table.set key (.tables earlier child.entries)

/-- Gives a new key a value. -/
def define (key : String) (value : Value) (table : Table) : Option Table :=
  match table.find? key with
  | none => some (table.set key (.value value))
  | some _ => none

/-- Adds a pair.  Behind the dots of its key the table has to be one that dotted keys
made. -/
def insertPair (table : Table) (pair : Pair) : Option Table :=
  table.changeAt .dotted
    (fun inner =>
      if pair.key.way.isEmpty ∨ inner.origin = .dotted then
        inner.define pair.key.last pair.value
      else none)
    pair.key.way

/-- Adds pairs in turn. -/
def insertPairs : List Pair → Table → Option Table
  | [], table => some table
  | pair :: rest, table => (table.insertPair pair).bind (insertPairs rest)

/-- Opens the table of a header and fills it.  The table may have been implied before. -/
def openTable (path : KeyPath) (pairs : List Pair) (root : Table) : Option Table :=
  root.changeAt .implied
    (fun parent =>
      match parent.find? path.last with
      | none =>
          (insertPairs pairs (empty .header)).map fun child =>
            parent.set path.last child.toNode
      | some (.table .implied entries) =>
          (insertPairs pairs ⟨.header, entries⟩).map fun child =>
            parent.set path.last child.toNode
      | some _ => none)
    path.way

/-- Appends a table to the array of a header and fills it. -/
def openElement (path : KeyPath) (pairs : List Pair) (root : Table) : Option Table :=
  root.changeAt .implied
    (fun parent =>
      match parent.find? path.last with
      | none =>
          (insertPairs pairs (empty .header)).map fun child =>
            parent.set path.last (.tables [] child.entries)
      | some (.tables earlier last) =>
          (insertPairs pairs (empty .header)).map fun child =>
            parent.set path.last (.tables (last :: earlier) child.entries)
      | some _ => none)
    path.way

end Table

/-! ## Finished tables -/

mutual

/-- What a key has, as a value. -/
def Node.toValue : Node → Value
  | .value content => content
  | .table _ entries => .table (Node.toEntries entries)
  | .tables earlier last =>
      .array ((.table (Node.toEntries last) :: Node.toTables earlier).reverse)

/-- The entries of a table, as values. -/
def Node.toEntries : List (String × Node) → List (String × Value)
  | [] => []
  | (key, node) :: rest => (key, node.toValue) :: Node.toEntries rest

/-- Tables, as values. -/
def Node.toTables : List (List (String × Node)) → List Value
  | [] => []
  | entries :: rest => .table (Node.toEntries entries) :: Node.toTables rest

end

/-- The entries of a finished table. -/
def Table.toEntries (table : Table) : List (String × Value) :=
  Node.toEntries table.entries

end ScriptBridge.Toml
