import ScriptBridge.Dictionary
import ScriptBridge.ParamType

/-!
# Enumerations

An enumeration has a display name and is looked up in both directions: from the name of a
variant to its value and back.  Each direction keeps the variant that was added last.
-/

namespace ScriptBridge

/-- The variants of one enumeration. -/
structure EnumTable where
  displayName : String
  byName : Dictionary String Int
  byValue : Dictionary Int String

namespace EnumTable

/-- An enumeration without variants. -/
def empty (displayName : String) : EnumTable :=
  ⟨displayName, .empty, .empty⟩

/-- Adds a variant: the name leads to the value and the value to the name. -/
def variant (table : EnumTable) (name : String) (value : Int) : EnumTable :=
  { table with
    byName := table.byName.insert name value
    byValue := table.byValue.insert value name }

/-- An enumeration with the given variants, added in order. -/
def ofVariants (displayName : String) (variants : List (String × Int)) : EnumTable :=
  variants.foldl (fun table entry => table.variant entry.1 entry.2) (empty displayName)

end EnumTable

/-- All known enumerations. -/
structure EnumTables where
  tables : Dictionary EnumId EnumTable

namespace EnumTables

/-- No enumeration. -/
def empty : EnumTables :=
  ⟨.empty⟩

instance : Inhabited EnumTables := ⟨empty⟩

/-- Adds an enumeration, in place of an earlier one with its key. -/
def insert (tables : EnumTables) (id : EnumId) (table : EnumTable) : EnumTables :=
  ⟨tables.tables.insert id table⟩

/-- The display name of an enumeration. -/
def enumName? (tables : EnumTables) (id : EnumId) : Option String :=
  (tables.tables.find? id).map EnumTable.displayName

/-- The value of a variant. -/
def parse? (tables : EnumTables) (id : EnumId) (name : String) : Option Int :=
  (tables.tables.find? id).bind fun table => table.byName.find? name

/-- The name of a value's variant. -/
def variantName? (tables : EnumTables) (id : EnumId) (value : Int) : Option String :=
  (tables.tables.find? id).bind fun table => table.byValue.find? value

end EnumTables

end ScriptBridge
