import ScriptBridge.Arg.Map

/-!
# Equality of arguments

Arguments key mappings through their own equality, `Arg.same`, in which numbers agree as
collection keys do.  It only identifies the two zeros, so every argument has a canonical
form with positive zeros, and two arguments are the same exactly if their canonical forms
are equal terms.  That makes the equality an equivalence, and the hash, which does not
change under taking the canonical form, respects it.  The index of an `ArgMap` relies on
both.  Statements about arguments come with one about lists of arguments and one about
lists of pairs, as the recursion does.
-/

namespace ScriptBridge

namespace Number

/-- The number with a positive sign if it is zero. -/
def canonical : Number → Number
  | finite negative quanta held =>
      if quanta = 0 then zero false else finite negative quanta held
  | number => number

/-- Numbers are the same key exactly if they differ at most in the sign of a zero. -/
theorem sameKey_iff (left right : Number) :
    left.sameKey right = true ↔ left.canonical = right.canonical := by
  cases left with
  | nan =>
      cases right with
      | nan => simp [sameKey, canonical]
      | infinite other => simp [sameKey, numericEq, canonical]
      | finite other quanta held =>
          simp only [sameKey, numericEq, canonical, zero]
          split <;> simp
  | infinite negative =>
      cases right with
      | nan => simp [sameKey, numericEq, canonical]
      | infinite other => simp [sameKey, numericEq, canonical]
      | finite other quanta held =>
          simp only [sameKey, numericEq, canonical, zero]
          split <;> simp
  | finite negative quanta held =>
      cases right with
      | nan =>
          simp only [sameKey, numericEq, canonical, zero]
          split <;> simp
      | infinite other =>
          simp only [sameKey, numericEq, canonical, zero]
          split <;> simp
      | finite other quanta' held' =>
          by_cases leftZero : quanta = 0 <;> by_cases rightZero : quanta' = 0 <;>
            simp [sameKey, numericEq, canonical, zero, leftZero, rightZero]
          · intro zeroIsRight
            exact absurd zeroIsRight.symm rightZero
          · exact and_comm

end Number

namespace Arg

mutual

/-- The argument with every zero in it made positive. -/
def canonical : Arg → Arg
  | float number => float number.canonical
  | optional none => optional none
  | optional (some inner) => optional (some (canonical inner))
  | sequence items => sequence (canonicalItems items)
  | mapping pairs => mapping (canonicalPairs pairs)
  | union index value => union index (canonical value)
  | arg => arg

/-- The canonical forms of several arguments. -/
def canonicalItems : List Arg → List Arg
  | [] => []
  | item :: rest => canonical item :: canonicalItems rest

/-- The canonical forms of keys and values. -/
def canonicalPairs : List (Arg × Arg) → List (Arg × Arg)
  | [] => []
  | (key, value) :: rest => (canonical key, canonical value) :: canonicalPairs rest

end

theorem canonical_optional (inner : Option Arg) :
    (optional inner).canonical = optional (inner.map canonical) := by
  cases inner <;> simp [canonical]

mutual

theorem same_iff : (left right : Arg) →
    (left.same right = true ↔ left.canonical = right.canonical)
  | integer _, right => by cases right <;> simp [same, canonical, canonical_optional]
  | float number, right => by
      cases right <;> simp [same, canonical, canonical_optional, Number.sameKey_iff]
  | string _, right => by cases right <;> simp [same, canonical, canonical_optional]
  | boolean _, right => by cases right <;> simp [same, canonical, canonical_optional]
  | enumeration _, right => by cases right <;> simp [same, canonical, canonical_optional]
  | optional none, right => by
      rcases right with _ | _ | _ | _ | _ | (_ | right) <;> simp [same, canonical]
  | optional (some left), right => by
      rcases right with _ | _ | _ | _ | _ | (_ | right) <;>
        simp [same, canonical, same_iff left]
  | sequence left, right => by
      cases right <;> simp [same, canonical, canonical_optional, sameItems_iff left]
  | mapping left, right => by
      cases right <;> simp [same, canonical, canonical_optional, samePairs_iff left]
  | union _ left, right => by
      cases right <;> simp [same, canonical, canonical_optional, same_iff left]
  | handle _, right => by cases right <;> simp [same, canonical, canonical_optional]
  | callback _, right => by cases right <;> simp [same, canonical, canonical_optional]
  | context _, right => by cases right <;> simp [same, canonical, canonical_optional]
  | placeholder, right => by cases right <;> simp [same, canonical, canonical_optional]

theorem sameItems_iff : (left right : List Arg) →
    (sameItems left right = true ↔ canonicalItems left = canonicalItems right)
  | [], right => by cases right <;> simp [sameItems, canonicalItems]
  | left :: lefts, [] => by simp [sameItems, canonicalItems]
  | left :: lefts, right :: rights => by
      simp [sameItems, canonicalItems, same_iff left right, sameItems_iff lefts rights]

theorem samePairs_iff : (left right : List (Arg × Arg)) →
    (samePairs left right = true ↔ canonicalPairs left = canonicalPairs right)
  | [], right => by cases right <;> simp [samePairs, canonicalPairs]
  | (_, _) :: _, [] => by simp [samePairs, canonicalPairs]
  | (leftKey, left) :: lefts, (rightKey, right) :: rights => by
      simp [samePairs, canonicalPairs, same_iff leftKey rightKey, same_iff left right,
        samePairs_iff lefts rights, and_assoc]

end

/-! ## The equality is an equivalence -/

theorem same_refl (arg : Arg) : arg.same arg = true :=
  (same_iff arg arg).mpr rfl

theorem same_symm {left right : Arg} (same : left.same right = true) :
    right.same left = true :=
  (same_iff right left).mpr ((same_iff left right).mp same).symm

theorem same_trans {first second third : Arg} (left : first.same second = true)
    (right : second.same third = true) : first.same third = true :=
  (same_iff first third).mpr
    (((same_iff first second).mp left).trans ((same_iff second third).mp right))

instance : EquivBEq Arg where
  rfl := same_refl _
  symm := same_symm
  trans := same_trans

/-! ## The hash respects the equality -/

theorem hashNumber_canonical (number : Number) :
    hashNumber number.canonical = hashNumber number := by
  cases number with
  | nan => rfl
  | infinite negative => rfl
  | finite negative quanta held =>
      by_cases isZero : quanta = 0 <;> simp [Number.canonical, isZero, hashNumber, Number.zero]

mutual

theorem hashCode_canonical : (arg : Arg) → arg.canonical.hashCode = arg.hashCode
  | integer _ => by simp [canonical]
  | float number => by simp [canonical, hashCode, hashNumber_canonical]
  | string _ => by simp [canonical]
  | boolean _ => by simp [canonical]
  | enumeration _ => by simp [canonical]
  | optional none => by simp [canonical]
  | optional (some inner) => by simp [canonical, hashCode, hashCode_canonical inner]
  | sequence items => by simp [canonical, hashCode, hashItems_canonical items]
  | mapping pairs => by simp [canonical, hashCode, hashPairs_canonical pairs]
  | union _ value => by simp [canonical, hashCode, hashCode_canonical value]
  | handle _ => by simp [canonical]
  | callback _ => by simp [canonical]
  | context _ => by simp [canonical]
  | placeholder => by simp [canonical]

theorem hashItems_canonical : (items : List Arg) →
    hashItems (canonicalItems items) = hashItems items
  | [] => by simp [canonicalItems]
  | item :: rest => by
      simp [canonicalItems, hashItems, hashCode_canonical item, hashItems_canonical rest]

theorem hashPairs_canonical : (pairs : List (Arg × Arg)) →
    hashPairs (canonicalPairs pairs) = hashPairs pairs
  | [] => by simp [canonicalPairs]
  | (key, value) :: rest => by
      simp [canonicalPairs, hashPairs, hashCode_canonical key, hashCode_canonical value,
        hashPairs_canonical rest]

end

theorem hashCode_eq_of_same {left right : Arg} (same : left.same right = true) :
    left.hashCode = right.hashCode := by
  rw [← hashCode_canonical left, ← hashCode_canonical right, (same_iff left right).mp same]

instance : LawfulHashable Arg where
  hash_eq _ _ same := hashCode_eq_of_same same

end Arg

end ScriptBridge
