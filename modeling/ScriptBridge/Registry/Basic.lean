import ScriptBridge.Registry.Classes
import ScriptBridge.Registry.Enums

/-!
# Registries

What marshalling asks about classes and enumerations.  It owns neither: a host answers
the questions in its own way, and `Registries.ofTables` is the host that answers from the
tables of this library.
-/

namespace ScriptBridge

/-- A host's answers about native classes. -/
structure ClassRegistry where
  /-- The display name of a class. -/
  className : ClassId → String
  /-- The name of the class of the object behind a handle. -/
  instanceName : Handle → String
  /-- The object as an instance of a class, if it is one. -/
  downcast? : Handle → ClassId → Option Handle

/-- A host's answers about enumerations. -/
structure EnumRegistry where
  /-- The display name of an enumeration. -/
  enumName? : EnumId → Option String
  /-- The value of a variant. -/
  parse? : EnumId → String → Option Int
  /-- The name of a value's variant. -/
  variantName? : EnumId → Int → Option String

/-- The registries that every bound call consults. -/
structure Registries where
  classes : ClassRegistry
  enums : EnumRegistry

/-- A class table as a registry. -/
def ClassTable.registry (table : ClassTable) : ClassRegistry where
  className := table.className
  instanceName := table.instanceName
  downcast? := table.downcast?

/-- Enumeration tables as a registry. -/
def EnumTables.registry (tables : EnumTables) : EnumRegistry where
  enumName? := tables.enumName?
  parse? := tables.parse?
  variantName? := tables.variantName?

namespace Registries

/-- The registries that answer from tables. -/
def ofTables (classes : ClassTable) (enums : EnumTables) : Registries :=
  ⟨classes.registry, enums.registry⟩

/-- The registries that know nothing. -/
def empty : Registries :=
  ofTables .empty .empty

instance : Inhabited Registries := ⟨empty⟩

end Registries

end ScriptBridge
