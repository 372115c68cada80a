import ScriptBridge.Proofs.Config.Precedence

/-!
# Layers upon layers

What a layer is put over can itself be made of layers, and so can the layer.  However the layers
are grouped, and in whichever order a merge goes through the functions of its upper layer, the
result is the one that the layers themselves determine: every section and every function's entry
is the one of the last layer that has one (`Grouping.topmost_of_comesTo`).  Two such results can
differ in the order of their functions and in nothing else, so layering has the laws of a monoid,
with the later layer ahead of the earlier ones.
-/

namespace ScriptBridge

/-- Settings that list each function once, so that their functions are a map.  All settings that
are read from a text do (`Settings.distinct_functions_of_parse`). -/
structure SettingsLayer extends Settings where
  distinct : functions.Distinct

namespace SettingsLayer

/-- The layer that sets nothing. -/
def empty : SettingsLayer :=
  ⟨.empty, List.nodup_nil⟩

/-- Puts a layer over another one. -/
def merge (below above : SettingsLayer) : SettingsLayer where
  toSettings := below.toSettings.merge above.toSettings
  distinct := Dictionary.distinct_insertAll below.distinct above.functions.entries

/-- The layers have the same sections and the same entries.  They may list the functions in
different orders. -/
structure Same (left right : SettingsLayer) : Prop where
  defaults : left.defaults = right.defaults
  diagnostics : left.diagnostics = right.diagnostics
  logging : left.logging = right.logging
  functions : left.functions.entries.Perm right.functions.entries

theorem same_refl (layer : SettingsLayer) : layer.Same layer :=
  ⟨rfl, rfl, rfl, .rfl⟩

namespace Same

variable {left right : SettingsLayer}

theorem find?_functions (same : left.Same right) (function : String) :
    left.functions.find? function = right.functions.find? function :=
  (Dictionary.perm_iff_find? left.distinct right.distinct).mp same.functions function

theorem policyFor (same : left.Same right) (function : String) :
    left.policyFor function = right.policyFor function := by
  rw [Settings.policyFor_eq, Settings.policyFor_eq, same.find?_functions, same.defaults]

theorem color (same : left.Same right) : left.color = right.color := by
  simp only [Settings.color, same.diagnostics]

end Same

/-! ## The last layer that has a say -/

/-- What the last layer that has something of a kind has of it. -/
def topmost? {Item : Type} (read : SettingsLayer → Option Item) (layers : List SettingsLayer) :
    Option Item :=
  layers.reverse.findSome? read

theorem topmost?_append {Item : Type} (read : SettingsLayer → Option Item)
    (below above : List SettingsLayer) :
    topmost? read (below ++ above) = (topmost? read above).or (topmost? read below) := by
  rw [topmost?, List.reverse_append, List.findSome?_append]
  rfl

/-- Layers that come twice in a row count once. -/
theorem topmost?_repeated {Item : Type} (read : SettingsLayer → Option Item)
    (below above : List SettingsLayer) :
    topmost? read (below ++ above ++ above) = topmost? read (below ++ above) := by
  rw [topmost?_append, topmost?_append, ← Option.or_assoc, Option.or_self]

/-- The result has every section and every function's entry from the last layer that has one. -/
structure Topmost (layers : List SettingsLayer) (result : SettingsLayer) : Prop where
  defaults : result.defaults = topmost? (·.defaults) layers
  diagnostics : result.diagnostics = topmost? (·.diagnostics) layers
  logging : result.logging = topmost? (·.logging) layers
  functions : ∀ function,
    result.functions.find? function = topmost? (·.functions.find? function) layers

namespace Topmost

variable {layers below above : List SettingsLayer} {result other lower upper : SettingsLayer}

theorem nil : Topmost [] empty :=
  ⟨rfl, rfl, rfl, fun _ => rfl⟩

theorem singleton (layer : SettingsLayer) : Topmost [layer] layer := by
  have alone {Item : Type} (read : SettingsLayer → Option Item) :
      read layer = topmost? read [layer] := by
    cases asked : read layer <;> simp [topmost?, asked]
  constructor
  · exact alone (·.defaults)
  · exact alone (·.diagnostics)
  · exact alone (·.logging)
  · intro function
    exact alone (·.functions.find? function)

theorem merge (ofLower : Topmost below lower) (ofUpper : Topmost above upper) :
    Topmost (below ++ above) (lower.merge upper) := by
  constructor
  · rw [topmost?_append, ← ofLower.defaults, ← ofUpper.defaults]
    rfl
  · rw [topmost?_append, ← ofLower.diagnostics, ← ofUpper.diagnostics]
    rfl
  · rw [topmost?_append, ← ofLower.logging, ← ofUpper.logging]
    rfl
  · intro function
    rw [topmost?_append, ← ofLower.functions, ← ofUpper.functions]
    exact Settings.find?_functions_merge lower.toSettings upper.distinct function

theorem of_same (determined : Topmost layers result) (same : result.Same other) :
    Topmost layers other := by
  constructor
  · exact same.defaults.symm.trans determined.defaults
  · exact same.diagnostics.symm.trans determined.diagnostics
  · exact same.logging.symm.trans determined.logging
  · intro function
    exact (same.find?_functions function).symm.trans (determined.functions function)

/-- Layers have one result, up to the order of its functions. -/
theorem unique (determined : Topmost layers result) (determinedToo : Topmost layers other) :
    result.Same other := by
  constructor
  · exact determined.defaults.trans determinedToo.defaults.symm
  · exact determined.diagnostics.trans determinedToo.diagnostics.symm
  · exact determined.logging.trans determinedToo.logging.symm
  · apply (Dictionary.perm_iff_find? result.distinct other.distinct).mpr
    intro function
    exact (determined.functions function).trans (determinedToo.functions function).symm

theorem of_repeated (determined : Topmost (below ++ above ++ above) result) :
    Topmost (below ++ above) result := by
  constructor
  · exact determined.defaults.trans (topmost?_repeated _ below above)
  · exact determined.diagnostics.trans (topmost?_repeated _ below above)
  · exact determined.logging.trans (topmost?_repeated _ below above)
  · intro function
    exact (determined.functions function).trans (topmost?_repeated _ below above)

end Topmost

end SettingsLayer

/-! ## Groups of layers -/

/-- How layers are taken together, from the lowest up. -/
inductive Grouping where
  /-- No layer at all. -/
  | empty
  | single (layer : SettingsLayer)
  /-- Both groups are put together on their own, and then the upper one goes over the lower. -/
  | stacked (below above : Grouping)

namespace Grouping

/-- The layers, from the lowest up. -/
def layers : Grouping → List SettingsLayer
  | empty => []
  | single layer => [layer]
  | stacked below above => below.layers ++ above.layers

/-- What a group can come to.  Nothing fixes the order in which a merge goes through the functions
of its upper layer, so that layer may come with its functions in any order. -/
inductive ComesTo : Grouping → SettingsLayer → Prop where
  | empty : ComesTo empty .empty
  | single (layer : SettingsLayer) : ComesTo (single layer) layer
  | stacked {below above : Grouping} {lower upper enumerated : SettingsLayer}
      (ofBelow : ComesTo below lower) (ofAbove : ComesTo above upper)
      (order : upper.Same enumerated) : ComesTo (stacked below above) (lower.merge enumerated)

theorem exists_comesTo (grouping : Grouping) : ∃ result, grouping.ComesTo result := by
  induction grouping with
  | empty => exact ⟨.empty, .empty⟩
  | single layer => exact ⟨layer, .single layer⟩
  | stacked below above belowHas aboveHas =>
      rcases belowHas with ⟨lower, ofBelow⟩
      rcases aboveHas with ⟨upper, ofAbove⟩
      exact ⟨lower.merge upper, .stacked ofBelow ofAbove upper.same_refl⟩

/-- A group comes to what its layers determine. -/
theorem topmost_of_comesTo {grouping : Grouping} {result : SettingsLayer}
    (comes : grouping.ComesTo result) : SettingsLayer.Topmost grouping.layers result := by
  induction comes with
  | empty => exact .nil
  | single layer => exact .singleton layer
  | stacked _ _ order ofBelow ofAbove => exact ofBelow.merge (ofAbove.of_same order)

end Grouping

namespace SettingsLayer

/-- Layering is a monoid with the later layer ahead.  It is associative, the layer that sets
nothing is its identity on both sides, a layer that is put on twice counts once, and the order in
which layers list their functions makes no difference.  So every grouping of the same layers comes
to the same sections and entries, those of the last layer that has them, and every function gets
the same policy and the diagnostics the same colours. -/
theorem merge_monoid :
    (∀ first second third : SettingsLayer,
      ((first.merge second).merge third).Same (first.merge (second.merge third))) ∧
    (∀ layer : SettingsLayer,
      (empty.merge layer).Same layer ∧ (layer.merge empty).Same layer) ∧
    (∀ below above : SettingsLayer,
      ((below.merge above).merge above).Same (below.merge above)) ∧
    (∀ below above reordered enumerated : SettingsLayer,
      below.Same reordered → above.Same enumerated →
        (reordered.merge enumerated).Same (below.merge above)) ∧
    (∀ grouping : Grouping, (∃ result, grouping.ComesTo result) ∧
      ∀ result, grouping.ComesTo result → Topmost grouping.layers result) ∧
    ∀ (left right : Grouping) (result other : SettingsLayer),
      left.layers = right.layers → left.ComesTo result → right.ComesTo other →
        result.Same other ∧
        (∀ function, result.functions.find? function = other.functions.find? function) ∧
        (∀ function, result.policyFor function = other.policyFor function) ∧
        result.color = other.color := by
  -- Each law holds since both of its sides have their settings from the same layers.
  refine ⟨?_, ?_, ?_, ?_, ?_, ?_⟩
  · intro first second third
    have leftFirst :=
      ((Topmost.singleton first).merge (.singleton second)).merge (.singleton third)
    exact leftFirst.unique
      ((Topmost.singleton first).merge ((Topmost.singleton second).merge (.singleton third)))
  · intro layer
    exact ⟨(Topmost.nil.merge (.singleton layer)).unique (.singleton layer),
      ((Topmost.singleton layer).merge .nil).unique (.singleton layer)⟩
  · intro below above
    have once := (Topmost.singleton below).merge (.singleton above)
    exact (once.merge (.singleton above)).of_repeated.unique once
  · intro below above reordered enumerated belowSame aboveSame
    have inOrder := (Topmost.singleton below).merge (.singleton above)
    exact (((Topmost.singleton below).of_same belowSame).merge
      ((Topmost.singleton above).of_same aboveSame)).unique inOrder
  · intro grouping
    exact ⟨grouping.exists_comesTo, fun _ comes => Grouping.topmost_of_comesTo comes⟩
  · intro left right result other layers ofLeft ofRight
    have determined := Grouping.topmost_of_comesTo ofLeft
    rw [layers] at determined
    have same := determined.unique (Grouping.topmost_of_comesTo ofRight)
    exact ⟨same, same.find?_functions, same.policyFor, same.color⟩

/-- The user's functions are gone through backwards in the one grouping, so the results list them
in different orders.  The project's entry for `g` hides the user's in both. -/
theorem merge_monoid_regrouped :
    let site : SettingsLayer :=
      ⟨⟨some ⟨some .raise, some (.boolean true)⟩, none, none, .ofList [("h", ⟨some .log, none⟩)]⟩,
        Dictionary.distinct_ofList _⟩
    let user : SettingsLayer :=
      ⟨⟨none, some ⟨some .never⟩, none, .ofList [("f", .open), ("g", ⟨some .raise, none⟩)]⟩,
        Dictionary.distinct_ofList _⟩
    let enumerated : SettingsLayer :=
      ⟨⟨none, some ⟨some .never⟩, none, .ofList [("g", ⟨some .raise, none⟩), ("f", .open)]⟩,
        Dictionary.distinct_ofList _⟩
    let project : SettingsLayer :=
      ⟨⟨some ⟨some .log, none⟩, none, none, .ofList [("g", .open)]⟩, Dictionary.distinct_ofList _⟩
    let left : Grouping := .stacked (.stacked (.single site) (.single user)) (.single project)
    let right : Grouping := .stacked (.single site) (.stacked (.single user) (.single project))
    let result : SettingsLayer := (site.merge enumerated).merge project
    let other : SettingsLayer := site.merge (user.merge project)
    user.Same enumerated ∧ (site.merge enumerated).Same (site.merge user) ∧
      left.layers = right.layers ∧ left.ComesTo result ∧ right.ComesTo other ∧
      result.functions ≠ other.functions ∧ result.Same other ∧
      (∀ function, result.policyFor function = other.policyFor function) ∧
      other.policyFor "g" = .log (.boolean false) ∧ result.color = other.color ∧
      other.color = .never := by
  intro site user enumerated project left right result other
  rcases merge_monoid with ⟨-, -, -, congruent, -, regrouped⟩
  have order : user.Same enumerated := ⟨rfl, rfl, rfl, .swap _ _ []⟩
  have ofLeft : left.ComesTo result :=
    .stacked (.stacked (.single site) (.single user) order) (.single project) project.same_refl
  have ofRight : right.ComesTo other :=
    .stacked (.single site) (.stacked (.single user) (.single project) project.same_refl)
      (user.merge project).same_refl
  rcases regrouped left right result other rfl ofLeft ofRight with ⟨same, -, policies, colors⟩
  exact ⟨order, congruent _ _ _ _ site.same_refl order, rfl, ofLeft, ofRight, by decide, same,
    policies, rfl, colors, rfl⟩

end SettingsLayer

end ScriptBridge
