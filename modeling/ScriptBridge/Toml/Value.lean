import ScriptBridge.Number.Basic

/-!
# Values of a TOML document

A document is a tree of tables, arrays and scalars.  Two keys of one table are never the
same; the order of the entries has no meaning.
-/

namespace ScriptBridge.Toml

/-- A value of a document. -/
inductive Value where
  | string (text : String)
  | integer (value : Int)
  | float (number : Number)
  | boolean (flag : Bool)
  /-- A date, a time of day, or both, as it is written. -/
  | dateTime (text : String)
  | array (items : List Value)
  | table (entries : List (String × Value))

instance : Inhabited Value := ⟨.table []⟩

end ScriptBridge.Toml
