import ScriptBridge.Dictionary
import ScriptBridge.Frame
import ScriptBridge.ParamType

/-!
# Classes and their instances

A class table declares native classes with a display name and perhaps a parent, and
records which class the live object behind a handle has.  Declaring a class again
replaces its declaration, and parents need not be declared, or may form a cycle: the walk
to the ancestors of a class ends after as many links as classes are declared.
-/

namespace ScriptBridge

/-- The declaration of a class. -/
structure ClassInfo where
  displayName : String
  parent : Option ClassId
deriving DecidableEq

/-- Declared classes and live objects. -/
structure ClassTable where
  classes : Dictionary ClassId ClassInfo
  instances : Dictionary Handle ClassId

namespace ClassTable

/-- No class and no object. -/
def empty : ClassTable :=
  ⟨.empty, .empty⟩

instance : Inhabited ClassTable := ⟨empty⟩

/-- Declares a class, in place of an earlier declaration. -/
def declare (table : ClassTable) (id : ClassId) (displayName : String)
    (parent : Option ClassId) : ClassTable :=
  { table with classes := table.classes.insert id ⟨displayName, parent⟩ }

/-- Records that the object behind a handle is alive and of a class. -/
def register (table : ClassTable) (handle : Handle) (id : ClassId) : ClassTable :=
  { table with instances := table.instances.insert handle id }

/-- Forgets the object behind a handle. -/
def release (table : ClassTable) (handle : Handle) : ClassTable :=
  { table with instances := table.instances.erase handle }

/-- The parent that a class declares. -/
def parent? (table : ClassTable) (id : ClassId) : Option ClassId :=
  (table.classes.find? id).bind ClassInfo.parent

/-- Is the target the class itself or one of its ancestors, at most `links` links away? -/
def reachesWithin (table : ClassTable) (target : ClassId) : Nat → ClassId → Bool
  | 0, id => id == target
  | links + 1, id =>
      id == target ||
        match table.parent? id with
        | some parent => table.reachesWithin target links parent
        | none => false

/-- Is the target the class itself or one of its ancestors?  A walk that meets no class
twice follows at most one link out of every declared class. -/
def derives (table : ClassTable) (id target : ClassId) : Bool :=
  table.reachesWithin target table.classes.size id

/-- The display name of a class; an undeclared class is called by its key. -/
def className (table : ClassTable) (id : ClassId) : String :=
  match table.classes.find? id with
  | some info => info.displayName
  | none => id.name

/-- The name of the class of the object behind a handle. -/
def instanceName (table : ClassTable) (handle : Handle) : String :=
  match table.instances.find? handle with
  | some id => table.className id
  | none => "userdata"

/-- The handle, if the object behind it is of the target class or of a derived one. -/
def downcast? (table : ClassTable) (handle : Handle) (target : ClassId) : Option Handle :=
  match table.instances.find? handle with
  | some id => if table.derives id target then some handle else none
  | none => none

end ClassTable

end ScriptBridge
