import Std.Data.HashMap
import ScriptBridge.Arg.Basic

/-!
# Maps of arguments

A map from arguments to arguments that lists its pairs in the order in which their keys
came in.  A key that comes again replaces the value of its pair; the pair keeps its place
and the key its first representation.  An index from keys to places makes both writing
and looking up independent of the number of pairs.
-/

namespace ScriptBridge

/-- Pairs in order of insertion, and the place of every key among them. -/
structure ArgMap where
  pairs : Array (Arg × Arg)
  index : Std.HashMap Arg Nat

namespace ArgMap

/-- The map without pairs. -/
def empty : ArgMap :=
  ⟨#[], ∅⟩

instance : Inhabited ArgMap := ⟨empty⟩

/-- Gives a key a value, in place of the one it has. -/
def insert (map : ArgMap) (key value : Arg) : ArgMap :=
  match map.index[key]? with
  | some place =>
      { map with pairs := map.pairs.modify place fun pair => (pair.1, value) }
  | none =>
      { pairs := map.pairs.push (key, value)
        index := map.index.insert key map.pairs.size }

/-- The value of a key. -/
def find? (map : ArgMap) (key : Arg) : Option Arg :=
  (map.index[key]?).bind fun place => (map.pairs[place]?).map Prod.snd

/-- The number of pairs. -/
def size (map : ArgMap) : Nat :=
  map.pairs.size

/-- Has the map no pairs? -/
def isEmpty (map : ArgMap) : Bool :=
  map.pairs.isEmpty

/-- The pairs in order of insertion. -/
def toList (map : ArgMap) : List (Arg × Arg) :=
  map.pairs.toList

/-- The map built from pairs, inserted in order. -/
def ofList (pairs : List (Arg × Arg)) : ArgMap :=
  pairs.foldl (fun map pair => map.insert pair.1 pair.2) empty

/-- The same pairs as a map without an order. -/
def toHashMap (map : ArgMap) : Std.HashMap Arg Arg :=
  map.pairs.foldl (fun table pair => table.insert pair.1 pair.2) ∅

/-- The map as an argument. -/
def toArg (map : ArgMap) : Arg :=
  .mapping map.toList

end ArgMap

end ScriptBridge
