import ScriptBridge.Native.Conversion

/-!
# Declared types and their conversions

What the rules that declare a native type as a parameter and the rules that convert an
argument into it have in common: integers have the bounds of the kind that they are declared
as, and an argument of the right shape converts part by part.
-/

namespace ScriptBridge

theorem IntegerWidth.integerBounds_of_numberKind {width : IntegerWidth} {kind : NumberKind}
    (declared : width.numberKind? = some kind) :
    kind.integerBounds? = some (width.low, width.high) := by
  cases width <;> simp [numberKind?] at declared <;> subst declared <;> rfl

/-- The integers of a width that can be declared have at most 53 bits. -/
theorem IntegerWidth.natAbs_lt {width : IntegerWidth} {kind : NumberKind}
    (declared : width.numberKind? = some kind) {value : Int}
    (fits : width.low ≤ value ∧ value ≤ width.high) : value.natAbs < Nat.pow 2 53 := by
  have bound : Nat.pow 2 53 = 9007199254740992 := rfl
  rw [bound]
  cases width with
  | int64 => simp [numberKind?] at declared
  | _ =>
      simp only [low, high] at fits
      omega

theorem IntegerWidth.ofInt_of_mem {width : IntegerWidth} {value : Int}
    (fits : width.low ≤ value ∧ value ≤ width.high) :
    width.ofInt value = .ok ⟨value, fits⟩ := by
  simp [ofInt, fits]

theorem NativeType.paramType?_map {key item : NativeType} {param : ParamType}
    (declared : (map key item).paramType? = some param) :
    ∃ keyParam itemParam, key.paramType? = some keyParam ∧ item.paramType? = some itemParam ∧
      .mapping keyParam itemParam = param := by
  simp only [paramType?] at declared
  split at declared
  · rename_i keyParam itemParam keyDeclared itemDeclared
    exact ⟨keyParam, itemParam, keyDeclared, itemDeclared, Option.some.inj declared⟩
  · simp at declared

theorem NativeType.ofArg_option_some (inner : NativeType) (arg : Arg) :
    (option inner).ofArg (.optional (some arg)) = (inner.ofArg arg).map some :=
  rfl

end ScriptBridge
