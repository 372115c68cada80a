import ScriptBridge.Proofs.Config.Load
import ScriptBridge.Proofs.Dictionary

/-!
# Loaded settings are valid

A file's settings are validated before they are taken together with other layers, and what the
layers come to is never validated.  It need not be: `Settings.Valid` says what validation
accepts, entry by entry and section by section, and every step of a load keeps it.  A layer
replaces whole entries and whole sections, so a policy is never put together with another
layer's fallback, and the log level of the environment is checked as the one of a file is.
-/

namespace ScriptBridge

theorem checkLevel_eq_ok_iff {field value : String} :
    checkLevel field value = .ok () ↔ Text.lower value ∈ logLevels := by
  simp [checkLevel]

theorem checkFunction_eq_ok_iff {name : String} {entry : PolicySettings} :
    checkFunction name entry = .ok () ↔
      name ≠ "" ∧ ¬(entry.policy = some .raise ∧ entry.fallback.isSome) := by
  simp only [checkFunction]
  split
  · rename_i isEmpty
    simp [String.isEmpty_iff.mp isEmpty]
  · rename_i notEmpty
    have named : name ≠ "" := by
      intro isEmpty
      exact notEmpty (String.isEmpty_iff.mpr isEmpty)
    split
    · rename_i useless
      simp [useless]
    · rename_i useful
      simp only [named, useful, not_false_eq_true, ne_eq, and_self]

theorem checkFunctions_eq_ok_iff {entries : List (String × PolicySettings)} :
    checkFunctions entries = .ok () ↔
      ∀ entry ∈ entries, checkFunction entry.1 entry.2 = .ok () := by
  induction entries with
  | nil => simp [checkFunctions]
  | cons first rest ih =>
      rcases first with ⟨name, entry⟩
      rw [checkFunctions, List.forall_mem_cons, ← ih]
      cases checkFunction name entry with
      | ok _ => simp
      | error invalid => simp

namespace Settings

/-- What validation accepts. -/
structure Valid (settings : Settings) : Prop where
  /-- A log level that is set is the name of one. -/
  level : ∀ level, settings.level? = some level → Text.lower level ∈ logLevels
  /-- No function has the empty name. -/
  named : ∀ entry ∈ settings.functions.entries, entry.1 ≠ ""
  /-- No function raises and has a fallback. -/
  useful : ∀ entry ∈ settings.functions.entries,
    ¬(entry.2.policy = some .raise ∧ entry.2.fallback.isSome)

theorem validate_eq_ok_iff {settings : Settings} :
    settings.validate = .ok () ↔ settings.Valid := by
  have functionsChecked :
      checkFunctions settings.functions.entries = .ok () ↔
        (∀ entry ∈ settings.functions.entries, entry.1 ≠ "") ∧
          ∀ entry ∈ settings.functions.entries,
            ¬(entry.2.policy = some .raise ∧ entry.2.fallback.isSome) := by
    simp only [checkFunctions_eq_ok_iff, checkFunction_eq_ok_iff, ← forall₂_and]
  simp only [validate]
  constructor
  · intro valid
    split at valid
    · rename_i unset
      rcases functionsChecked.mp valid with ⟨named, useful⟩
      refine ⟨?_, named, useful⟩
      intro level isSet
      rw [unset] at isSet
      cases isSet
    · rename_i level isSet
      split at valid
      · rename_i checked
        rcases functionsChecked.mp valid with ⟨named, useful⟩
        refine ⟨?_, named, useful⟩
        intro other isSetToo
        rw [isSet] at isSetToo
        cases isSetToo
        exact checkLevel_eq_ok_iff.mp checked
      · cases valid
  · intro valid
    have functionsValid := functionsChecked.mpr ⟨valid.named, valid.useful⟩
    split
    · exact functionsValid
    · rename_i level isSet
      rw [checkLevel_eq_ok_iff.mpr (valid.level level isSet)]
      exact functionsValid

theorem valid_empty : empty.Valid := by
  constructor <;> simp [empty, level?, Dictionary.empty]

/-! ## What keeps settings valid -/

theorem Valid.merge {settings layer : Settings} (valid : settings.Valid)
    (layerValid : layer.Valid) : (settings.merge layer).Valid := by
  -- An entry of the merged settings is an entry of one of the two, with its own fallback.
  have origin : ∀ entry ∈ (settings.merge layer).functions.entries,
      entry ∈ settings.functions.entries ∨ entry ∈ layer.functions.entries :=
    fun _ member => Dictionary.mem_entries_insertAll member
  refine ⟨?_, ?_, ?_⟩
  · intro level isSet
    simp only [Settings.merge, level?] at isSet
    cases layered : layer.logging with
    | none =>
        rw [layered, Option.none_or] at isSet
        exact valid.level level isSet
    | some logging =>
        rw [layered, Option.some_or, ← layered] at isSet
        exact layerValid.level level isSet
  · intro entry member
    rcases origin entry member with below | above
    · exact valid.named entry below
    · exact layerValid.named entry above
  · intro entry member
    rcases origin entry member with below | above
    · exact valid.useful entry below
    · exact layerValid.useful entry above

theorem Valid.withDefaultPolicy {settings : Settings} (valid : settings.Valid)
    (kind : PolicyKind) : (settings.withDefaultPolicy kind).Valid :=
  ⟨valid.level, valid.named, valid.useful⟩

theorem Valid.withLevel {settings : Settings} (valid : settings.Valid) {level : String}
    (known : Text.lower level ∈ logLevels) : (settings.withLevel level).Valid := by
  refine ⟨?_, valid.named, valid.useful⟩
  intro other isSet
  simp only [Settings.withLevel, level?, Option.bind_some, Option.some.injEq] at isSet
  exact isSet ▸ known

theorem valid_of_load {files : FileSystem} {path : Path} {settings : Settings}
    (loaded : load files path = .ok settings) : settings.Valid := by
  rcases load_eq_ok_iff.mp loaded with ⟨_, _, _, valid⟩
  exact validate_eq_ok_iff.mp valid

end Settings

namespace Environment

variable {environment : Environment}

theorem valid_userSettings (environment : Environment) : environment.userSettings.Valid := by
  simp only [userSettings]
  split
  · rename_i settings loaded
    exact Settings.valid_of_load loaded
  · exact Settings.valid_empty

theorem valid_projectSettings {file? : Option Path} {project : Settings}
    (loaded : environment.projectSettings file? = .ok project) : project.Valid := by
  cases file? with
  | none =>
      cases loaded
      exact Settings.valid_empty
  | some path => exact Settings.valid_of_load loaded

theorem valid_of_overridePolicy {settings chosen : Settings} (valid : settings.Valid)
    (overridden : environment.overridePolicy settings = .ok chosen) : chosen.Valid := by
  simp only [overridePolicy] at overridden
  split at overridden
  · cases overridden
    exact valid
  · split at overridden
    · cases overridden
      exact valid.withDefaultPolicy _
    · cases overridden

theorem valid_of_overrideLevel {settings chosen : Settings} (valid : settings.Valid)
    (overridden : environment.overrideLevel settings = .ok chosen) : chosen.Valid := by
  simp only [overrideLevel] at overridden
  split at overridden
  · cases overridden
    exact valid
  · rename_i level _
    cases checked : checkLevel "STACKCALL_LOG" level with
    | error invalid =>
        rw [checked] at overridden
        cases overridden
    | ok _ =>
        rw [checked] at overridden
        cases overridden
        exact valid.withLevel (checkLevel_eq_ok_iff.mp checked)

theorem valid_of_loadProject {root? file? : Option Path} {loaded : LoadedSettings}
    (returned : environment.loadProject root? file? = .ok loaded) : loaded.settings.Valid := by
  rcases Exception.bind_eq_ok_iff.mp returned with ⟨project, projectLoaded, assembled⟩
  rcases environment.assemble_eq_ok_iff.mp assembled with ⟨chosen, settings, policy, level, rfl⟩
  have merged :=
    (valid_userSettings environment).merge (valid_projectSettings projectLoaded)
  exact valid_of_overrideLevel (valid_of_overridePolicy merged policy) level

/-- All settings that a load returns are valid: validation accepts them, and so they have no
function without a name, none that raises and has a fallback, and no log level that is none.
This holds of any two valid layers that are taken together and overridden. -/
theorem loaded_settings_valid (environment : Environment) :
    (∀ start loaded, environment.loadFromDirectory start = .ok loaded →
      loaded.settings.validate = .ok () ∧ loaded.settings.Valid) ∧
    (∀ path loaded, environment.loadFromFile path = .ok loaded →
      loaded.settings.validate = .ok () ∧ loaded.settings.Valid) ∧
    ∀ settings layer chosen overridden : Settings,
      settings.validate = .ok () → layer.validate = .ok () →
      environment.overridePolicy (settings.merge layer) = .ok chosen →
      environment.overrideLevel chosen = .ok overridden →
      overridden.validate = .ok () ∧ overridden.Valid := by
  have accepted {settings : Settings} (valid : settings.Valid) :
      settings.validate = .ok () ∧ settings.Valid :=
    ⟨Settings.validate_eq_ok_iff.mpr valid, valid⟩
  refine ⟨?_, ?_, ?_⟩
  · intro start loaded returned
    rw [loadFromDirectory_eq] at returned
    exact accepted (valid_of_loadProject returned)
  · intro path loaded returned
    rw [loadFromFile_eq] at returned
    exact accepted (valid_of_loadProject returned)
  · intro settings layer chosen overridden valid layerValid policy level
    have merged := (Settings.validate_eq_ok_iff.mp valid).merge
      (Settings.validate_eq_ok_iff.mp layerValid)
    exact accepted (valid_of_overrideLevel (valid_of_overridePolicy merged policy) level)

/-- The user's file lets `f` raise and the project's gives it a fallback.  Put together they would
not be valid; the project's entry takes the place of the user's. -/
theorem loaded_settings_valid_replaced :
    let user : String := "[functions.f]\npolicy = \"raise\"\n[logging]\nlevel = \"debug\"\n"
    let project : String := "[functions.f]\nfallback = true\n"
    let files : FileSystem :=
      ((FileSystem.empty ["work"]).put ["user.toml"] (.file (.ofString user))).put
        ["work", "stackcall.toml"] (.file (.ofString project))
    let environment : Environment :=
      ⟨files, .ofString "/user.toml", some " Raise ", some "WARN"⟩
    let raising : Settings := ⟨none, none, none, .ofList [("f", ⟨some .raise, none⟩)]⟩
    let falling : Settings := ⟨none, none, none, .ofList [("f", ⟨none, some (.boolean true)⟩)]⟩
    let replaced (settings : Settings) : Prop :=
      settings.functions.entries = [("f", ⟨none, some (.boolean true)⟩)] ∧
        settings.level? = some "WARN" ∧ settings.validate = .ok () ∧ settings.Valid
    (∃ loaded, environment.loadFromDirectory (.ofString "scripts") = .ok loaded ∧
      replaced loaded.settings) ∧
    (∃ loaded, environment.loadFromFile (.ofString "stackcall.toml") = .ok loaded ∧
      replaced loaded.settings) ∧
    raising.validate = .ok () ∧ falling.validate = .ok () ∧
    ∃ chosen overridden, environment.overridePolicy (raising.merge falling) = .ok chosen ∧
      environment.overrideLevel chosen = .ok overridden ∧ replaced overridden := by
  intro user project files environment raising falling replaced
  have valid := loaded_settings_valid environment
  let view (settings : Settings) : List (String × PolicySettings) × Option String :=
    (settings.functions.entries, settings.level?)
  let expected : List (String × PolicySettings) × Option String :=
    ([("f", ⟨none, some (.boolean true)⟩)], some "WARN")
  have fromDirectory :
      (environment.loadFromDirectory (.ofString "scripts")).toOption.map (view ·.settings) =
        some expected := by
    decide +kernel
  have fromFile :
      (environment.loadFromFile (.ofString "stackcall.toml")).toOption.map (view ·.settings) =
        some expected := by
    decide +kernel
  rcases Option.map_eq_some_iff.mp fromDirectory with ⟨inDirectory, returned, seen⟩
  rcases Option.map_eq_some_iff.mp fromFile with ⟨inFile, returnedToo, seenToo⟩
  rw [Prod.mk.injEq] at seen seenToo
  have isLoaded := Exception.eq_ok_of_toOption returned
  have isLoadedToo := Exception.eq_ok_of_toOption returnedToo
  have policy : environment.overridePolicy (raising.merge falling) =
      .ok ((raising.merge falling).withDefaultPolicy .raise) := rfl
  have level : environment.overrideLevel ((raising.merge falling).withDefaultPolicy .raise) =
      .ok (((raising.merge falling).withDefaultPolicy .raise).withLevel "WARN") := rfl
  refine ⟨⟨inDirectory, isLoaded, seen.1, seen.2, valid.1 _ _ isLoaded⟩,
    ⟨inFile, isLoadedToo, seenToo.1, seenToo.2, valid.2.1 _ _ isLoadedToo⟩, rfl, rfl,
    _, _, policy, level, rfl, rfl, ?_⟩
  exact valid.2.2 raising falling _ _ rfl rfl policy level

end Environment

end ScriptBridge
