import Mathlib.Data.Finset.Card
import Mathlib.Data.Nat.Find
import Mathlib.Logic.Relation
import ScriptBridge.Proofs.Dictionary
import ScriptBridge.Registry.Classes

/-!
# Descent in a class table

A class table is what a history of changes has left: declarations of classes, and objects that
come and go.  The walk of `ClassTable.derives` from a class to its ancestors is bounded by the
number of declared classes.  The bound loses nothing.  A shortest walk to an ancestor meets no
class twice and leaves every class but the last one by a link that the class declares, so it has
at most one link for each declared class, whether the ancestor itself is declared or not, and
however the links run in circles elsewhere.

What a history has declared and registered is read off the history itself: the last change that
is about a class, or about a handle, is the one that counts.
-/

namespace ScriptBridge.ClassTable

/-! ## Histories -/

/-- A change of a class table. -/
inductive Change where
  | declare (id : ClassId) (displayName : String) (parent : Option ClassId)
  | register (handle : Handle) (id : ClassId)
  | release (handle : Handle)

namespace Change

/-- Is this a declaration of the class? -/
def declares (id : ClassId) : Change → Bool
  | declare declared _ _ => declared = id
  | register _ _ => false
  | release _ => false

/-- Does the change say whether there is an object behind the handle, and of which class? -/
def concerns (handle : Handle) : Change → Bool
  | declare _ _ _ => false
  | register registered _ => registered = handle
  | release released => released = handle

end Change

def apply (table : ClassTable) : Change → ClassTable
  | .declare id displayName parent => table.declare id displayName parent
  | .register handle id => table.register handle id
  | .release handle => table.release handle

/-- The table that a history of changes leaves. -/
def run (changes : List Change) : ClassTable :=
  changes.foldl apply empty

/-- The latest declaration of the child names the parent. -/
def HasParent (changes : List Change) (child parent : ClassId) : Prop :=
  ∃ displayName, (changes.filter (·.declares child)).getLast? =
    some (.declare child displayName (some parent))

theorem run_append_singleton (changes : List Change) (change : Change) :
    run (changes ++ [change]) = (run changes).apply change := by
  simp only [run, List.foldl_append, List.foldl_cons, List.foldl_nil]

theorem find?_classes_run (changes : List Change) (id : ClassId) (info : ClassInfo) :
    (run changes).classes.find? id = some info ↔
      (changes.filter (·.declares id)).getLast? =
        some (.declare id info.displayName info.parent) := by
  induction changes using List.reverseRecOn with
  | nil => simp [run, empty, Dictionary.find?, Dictionary.empty, Dictionary.findIn]
  | append_singleton changes change ih =>
      rw [run_append_singleton]
      cases change with
      | declare declared displayName parent =>
          simp only [apply, declare, Dictionary.find?_insert]
          by_cases isId : declared = id
          · rcases info with ⟨name, origin⟩
            simp [isId, Change.declares]
          · simpa [isId, Change.declares] using ih
      | register handle ofClass => simpa [apply, register, Change.declares] using ih
      | release handle => simpa [apply, release, Change.declares] using ih

theorem find?_instances_run (changes : List Change) (handle : Handle) (id : ClassId) :
    (run changes).instances.find? handle = some id ↔
      (changes.filter (·.concerns handle)).getLast? = some (.register handle id) := by
  induction changes using List.reverseRecOn with
  | nil => simp [run, empty, Dictionary.find?, Dictionary.empty, Dictionary.findIn]
  | append_singleton changes change ih =>
      rw [run_append_singleton]
      cases change with
      | declare declared displayName parent => simpa [apply, declare, Change.concerns] using ih
      | register registered ofClass =>
          simp only [apply, register, Dictionary.find?_insert]
          by_cases isHandle : registered = handle
          · simp [isHandle, Change.concerns]
          · simpa [isHandle, Change.concerns] using ih
      | release released =>
          simp only [apply, release, Dictionary.find?_erase]
          by_cases isHandle : released = handle
          · simp [isHandle, Change.concerns]
          · simpa [isHandle, Change.concerns] using ih

theorem parent?_run (changes : List Change) (child parent : ClassId) :
    (run changes).parent? child = some parent ↔ HasParent changes child parent := by
  simp only [parent?, Option.bind_eq_some_iff, find?_classes_run]
  constructor
  · rintro ⟨⟨displayName, origin⟩, latest, rfl⟩
    exact ⟨displayName, latest⟩
  · rintro ⟨displayName, latest⟩
    exact ⟨⟨displayName, some parent⟩, latest, rfl⟩

/-! ## Walks -/

variable {table : ClassTable} {id target : ClassId}

/-- The class that a number of links leads to. -/
def ancestor? (table : ClassTable) : Nat → ClassId → Option ClassId
  | 0, id => some id
  | links + 1, id => (table.parent? id).bind (table.ancestor? links)

theorem ancestor?_add (first second : Nat) :
    table.ancestor? (first + second) id =
      (table.ancestor? first id).bind (table.ancestor? second) := by
  induction first generalizing id with
  | zero => simp [ancestor?]
  | succ first ih =>
      rw [Nat.succ_add]
      cases next : table.parent? id with
      | none => simp [ancestor?, next]
      | some parent => simp [ancestor?, next, ih]

theorem exists_ancestor?_iff :
    (∃ links, table.ancestor? links id = some target) ↔
      Relation.ReflTransGen (fun child parent => table.parent? child = some parent) id target := by
  constructor
  · rintro ⟨links, reached⟩
    induction links generalizing id with
    | zero =>
        rw [Option.some.inj reached]
    | succ links ih =>
        rcases Option.bind_eq_some_iff.mp reached with ⟨parent, link, rest⟩
        exact .head link (ih rest)
  · intro path
    induction path using Relation.ReflTransGen.head_induction_on with
    | refl => exact ⟨0, rfl⟩
    | head link _ ih =>
        rcases ih with ⟨links, reached⟩
        refine ⟨links + 1, ?_⟩
        simp only [ancestor?, link, Option.bind_some, reached]

theorem reachesWithin_iff {links : Nat} :
    table.reachesWithin target links id = true ↔
      ∃ near ≤ links, table.ancestor? near id = some target := by
  induction links generalizing id with
  | zero => simp [reachesWithin, ancestor?]
  | succ links ih =>
      simp only [reachesWithin, Bool.or_eq_true, beq_iff_eq]
      constructor
      · rintro (rfl | further)
        · exact ⟨0, Nat.zero_le _, rfl⟩
        · cases next : table.parent? id with
          | none => simp [next] at further
          | some parent =>
              simp only [next] at further
              rcases ih.mp further with ⟨near, within, reached⟩
              refine ⟨near + 1, Nat.succ_le_succ within, ?_⟩
              simp only [ancestor?, next, Option.bind_some, reached]
      · rintro ⟨near, within, reached⟩
        cases near with
        | zero => exact Or.inl (Option.some.inj reached)
        | succ near =>
            right
            rcases Option.bind_eq_some_iff.mp reached with ⟨parent, link, rest⟩
            simp only [link]
            exact ih.mpr ⟨near, Nat.le_of_succ_le_succ within, rest⟩

/-! ## The bound -/

/-- Every class that a walk leaves is declared. -/
theorem exists_declared {links step : Nat} (before : step < links)
    (reached : table.ancestor? links id = some target) :
    ∃ left ∈ table.classes.entries.map Prod.fst, table.ancestor? step id = some left := by
  have split : links = step + (1 + (links - step - 1)) := by omega
  rw [split, ancestor?_add] at reached
  rcases Option.bind_eq_some_iff.mp reached with ⟨left, there, onward⟩
  rw [ancestor?_add] at onward
  rcases Option.bind_eq_some_iff.mp onward with ⟨next, link, -⟩
  refine ⟨left, ?_, there⟩
  simp only [ancestor?, Option.bind_eq_some_iff, parent?] at link
  rcases link with ⟨_, ⟨info, declared, -⟩, -⟩
  exact List.mem_map_of_mem (Dictionary.mem_of_findIn declared)

/-- A walk that comes to a class twice can leave out what lies between. -/
theorem ancestor?_shortcut {links early late : Nat} (within : late ≤ links)
    (again : table.ancestor? early id = table.ancestor? late id)
    (reached : table.ancestor? links id = some target) :
    table.ancestor? (early + (links - late)) id = some target := by
  have split : links = late + (links - late) := by omega
  rw [split, ancestor?_add] at reached
  rw [ancestor?_add, again, reached]

/-- A shortest walk has at most one link for each declared class. -/
theorem le_size_of_shortest {links : Nat} (reached : table.ancestor? links id = some target)
    (shortest : ∀ fewer < links, table.ancestor? fewer id ≠ some target) :
    links ≤ table.classes.size := by
  classical
  -- The classes that the walk leaves are different and declared; only its last one need not be.
  let declared : List (Option ClassId) := (table.classes.entries.map Prod.fst).map some
  have maps : ∀ step ∈ Finset.range links, table.ancestor? step id ∈ declared.toFinset := by
    intro step stepMem
    rcases exists_declared (Finset.mem_range.mp stepMem) reached with ⟨left, leftMem, there⟩
    rw [there, List.mem_toFinset]
    exact List.mem_map_of_mem leftMem
  have distinct : ∀ early late, early < late → late < links →
      table.ancestor? early id ≠ table.ancestor? late id := by
    intro early late ordered within again
    apply shortest (early + (links - late)) (by omega)
    exact ancestor?_shortcut within.le again reached
  have injective : Set.InjOn (fun step => table.ancestor? step id) (Finset.range links) := by
    intro first firstMem second secondMem same
    simp only [Finset.coe_range, Set.mem_Iio] at firstMem secondMem
    rcases Nat.lt_trichotomy first second with below | equal | above
    · exact absurd same (distinct first second below secondMem)
    · exact equal
    · exact absurd same.symm (distinct second first above firstMem)
  calc links = (Finset.range links).card := (Finset.card_range links).symm
    _ ≤ declared.toFinset.card := Finset.card_le_card_of_injOn _ maps injective
    _ ≤ declared.length := declared.toFinset_card_le
    _ = table.classes.size := by simp [declared, Dictionary.size]

theorem derives_iff :
    table.derives id target = true ↔
      Relation.ReflTransGen (fun child parent => table.parent? child = some parent) id target := by
  rw [derives, reachesWithin_iff, ← exists_ancestor?_iff]
  constructor
  · rintro ⟨near, -, reached⟩
    exact ⟨near, reached⟩
  · intro reachable
    classical
    refine ⟨Nat.find reachable, ?_, Nat.find_spec reachable⟩
    apply le_size_of_shortest (Nat.find_spec reachable)
    intro fewer below
    exact Nat.find_min reachable below

/-! ## Downcasts -/

/-- After any history, a handle is cast to a class exactly if the last change about the handle
registers it, and the class is the registered one or lies above it along the parents of the
latest declarations.  What is handed back is the handle. -/
theorem downcast?_run (changes : List Change) (handle found : Handle) (target : ClassId) :
    (run changes).downcast? handle target = some found ↔
      found = handle ∧ ∃ id,
        (changes.filter (·.concerns handle)).getLast? = some (.register handle id) ∧
        Relation.ReflTransGen (HasParent changes) id target := by
  have parents : (fun child parent => (run changes).parent? child = some parent) =
      HasParent changes := by
    funext child parent
    exact propext (parent?_run changes child parent)
  simp only [← find?_instances_run, ← parents, ← derives_iff, downcast?]
  cases registered : (run changes).instances.find? handle with
  | none => simp
  | some id =>
      by_cases derived : (run changes).derives id target = true
      · simpa [derived] using eq_comm
      · simp [derived]

/-- A chain that visits every declared class and ends in one that is not declared. -/
example :
    let changes : List Change :=
      [.declare ⟨"bus"⟩ "bus" (some ⟨"vehicle"⟩), .register ⟨7⟩ ⟨"bus"⟩,
        .declare ⟨"vehicle"⟩ "vehicle" (some ⟨"element"⟩)]
    (run changes).downcast? ⟨7⟩ ⟨"element"⟩ = some ⟨7⟩ := by
  decide

end ScriptBridge.ClassTable
