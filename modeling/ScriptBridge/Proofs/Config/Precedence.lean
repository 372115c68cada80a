import ScriptBridge.Binding.Basic
import ScriptBridge.Proofs.Config.Load
import ScriptBridge.Proofs.Dictionary

/-!
# Which settings decide a function's policy

Three sources have a say in the policy of a function: its entry, the policy that the
environment chooses, and the defaults.  Of the entries for it the project's counts and the
user's only if the project has none, and the same goes for the defaults as a whole; single
fields of two layers are never mixed.  `Layers.policyFor` reads this off the layers.  The loaded
settings come to the same policy (`Environment.policyFor_loaded`), although they are made by a
merge, by an override that may create the defaults, and by a look-up in the result.
-/

namespace ScriptBridge

/-- The policy that an entry, a chosen policy and defaults come to.  The first of them that
names a policy decides, and to raise if none does.  The fallback is the entry's, or else that of
the defaults, or else false. -/
def ResolvedPolicy.ofSources (entry : Option PolicySettings) (chosen : Option PolicyKind)
    (defaults : Option PolicySettings) : ResolvedPolicy :=
  let kind := (entry.bind (·.policy)).or (chosen.or (defaults.bind (·.policy)))
  match kind.getD .raise with
  | .raise => .raise
  | .log =>
      .log (((entry.bind (·.fallback)).or (defaults.bind (·.fallback))).getD (.boolean false))

/-- A binding does about its failures what the resolved policy says. -/
inductive FailurePolicy.Follows : ResolvedPolicy → FailurePolicy → Prop where
  | raise : Follows .raise .raise
  | boolean (flag : Bool) : Follows (.log (.boolean flag)) (.substituteAndLog (.boolean flag))
  | number (value : Number) : Follows (.log (.number value)) (.substituteAndLog (.number value))
  | text (content : String) :
      Follows (.log (.text content)) (.substituteAndLog (.string (.ofString content)))

/-- What a load takes together: the settings of the user and of the project, each if there are
any, and the policy that the environment chooses. -/
structure Layers where
  user : Option Settings
  project : Option Settings
  policy : Option PolicyKind

namespace Layers

variable (layers : Layers)

/-- The entry that counts for a function. -/
def entry? (function : String) : Option PolicySettings :=
  (layers.project.bind (·.functions.find? function)).or
    (layers.user.bind (·.functions.find? function))

/-- The defaults that count. -/
def defaults? : Option PolicySettings :=
  (layers.project.bind (·.defaults)).or (layers.user.bind (·.defaults))

/-- The policy of a function.  Nothing else in the layers has a part in it. -/
def policyFor (function : String) : ResolvedPolicy :=
  .ofSources (layers.entry? function) layers.policy layers.defaults?

end Layers

/-! ## Settings on their own -/

namespace Settings

theorem policyFor_eq (settings : Settings) (function : String) :
    settings.policyFor function =
      .ofSources (settings.functions.find? function) none settings.defaults := by
  simp only [policyFor, ResolvedPolicy.ofSources, Option.none_or]
  cases settings.functions.find? function <;> cases settings.defaults <;> rfl

/-- A policy that is chosen takes the place of the one in the defaults. -/
theorem policyFor_withDefaultPolicy (settings : Settings) (kind : PolicyKind)
    (function : String) :
    (settings.withDefaultPolicy kind).policyFor function =
      .ofSources (settings.functions.find? function) (some kind) settings.defaults := by
  simp only [policyFor_eq, withDefaultPolicy, ResolvedPolicy.ofSources, Option.none_or,
    Option.bind_some, Option.some_or]
  cases settings.defaults <;> rfl

theorem policyFor_withLevel (settings : Settings) (level function : String) :
    (settings.withLevel level).policyFor function = settings.policyFor function :=
  rfl

/-- Settings that are read from a text list each function once. -/
theorem distinct_functions_of_parse {text : String} {settings : Settings}
    (parsed : parse? text = some settings) : settings.functions.Distinct := by
  simp only [parse?, ofToml?, Option.bind_eq_some_iff, Option.pure_def, Option.some.injEq,
    Option.bind_eq_bind] at parsed
  rcases parsed with ⟨_, _, field, _, _, _, _, _, _, _, functions, read, rfl⟩
  simp only [functionsOfToml?] at read
  split at read
  · cases read
    exact List.nodup_nil
  · rcases Option.map_eq_some_iff.mp read with ⟨entries, _, rfl⟩
    exact Dictionary.distinct_ofList entries
  · cases read

theorem distinct_functions_of_load {files : FileSystem} {path : Path} {settings : Settings}
    (loaded : load files path = .ok settings) : settings.functions.Distinct := by
  rcases load_eq_ok_iff.mp loaded with ⟨_, _, parsed, _⟩
  exact distinct_functions_of_parse parsed

/-- A layer's entry takes the place of the one below it as a whole. -/
theorem find?_functions_merge (settings : Settings) {layer : Settings}
    (distinct : layer.functions.Distinct) (function : String) :
    (settings.merge layer).functions.find? function =
      (layer.functions.find? function).or (settings.functions.find? function) :=
  Dictionary.find?_insertAll distinct function

end Settings

/-! ## Layers taken together -/

namespace Layers

variable (layers : Layers)

/-- The settings of both files, taken together. -/
def merged : Settings :=
  (layers.user.getD .empty).merge (layers.project.getD .empty)

theorem find?_merged
    (distinct : ∀ project, layers.project = some project → project.functions.Distinct)
    (function : String) : layers.merged.functions.find? function = layers.entry? function := by
  have projectDistinct : (layers.project.getD .empty).functions.Distinct := by
    cases found : layers.project with
    | none => exact List.nodup_nil
    | some project => exact distinct project found
  rw [merged, Settings.find?_functions_merge _ projectDistinct, entry?]
  cases layers.project <;> cases layers.user <;> rfl

theorem defaults_merged : layers.merged.defaults = layers.defaults? := by
  simp only [merged, Settings.merge, defaults?]
  cases layers.project <;> cases layers.user <;> rfl

end Layers

namespace Environment

variable {environment : Environment} {layers : Layers}

/-- A load that is given a project's file, or none, finds these layers: every file that is there
has settings, and the policy is readable if it is set. -/
structure Finds (environment : Environment) (file? : Option Path) (layers : Layers) : Prop where
  user : environment.userFile?.map (Settings.load environment.files) = layers.user.map .ok
  project : file?.map (Settings.load environment.files) = layers.project.map .ok
  policy : environment.policy.map PolicyKind.parse? = layers.policy.map some

/-- The outcome of a load that goes by these layers.  Only the log level, which has no part in
any policy, can still be at fault. -/
inductive Settles (environment : Environment) (layers : Layers) :
    Except LoadError LoadedSettings → Prop where
  | loaded (loaded : LoadedSettings)
      (known : ∀ text, environment.level = some text → Text.lower text ∈ logLevels)
      (policies : ∀ function, loaded.settings.policyFor function = layers.policyFor function)
      (bindings : ∀ (declaration : Declaration) (plain : Binding),
        declaration.bind = .ok plain →
          ∃ binding, (declaration.configured loaded.settings).bind = .ok binding ∧
            binding.name = declaration.name ∧
            FailurePolicy.Follows (layers.policyFor declaration.name) binding.policy) :
      Settles environment layers (.ok loaded)
  | level (text : String) (isSet : environment.level = some text)
      (unknown : Text.lower text ∉ logLevels) :
      Settles environment layers (.error (.invalid (.level "STACKCALL_LOG" text)))

theorem Finds.userSettings_eq {file? : Option Path} (finds : environment.Finds file? layers) :
    environment.userSettings = layers.user.getD .empty := by
  have found := finds.user
  simp only [userFile?] at found
  split at found
  · -- The user's file is there, and then it has settings.
    cases present : layers.user with
    | none => simp [present] at found
    | some user =>
        rw [present, Option.map_some, Option.map_some, Option.some.injEq] at found
        simp only [userSettings, found, Option.getD_some]
  · rename_i absent
    cases present : layers.user with
    | some user => simp [present] at found
    | none => exact userSettings_of_absent (Bool.eq_false_iff.mpr absent)

theorem Finds.projectSettings_eq {file? : Option Path}
    (finds : environment.Finds file? layers) :
    environment.projectSettings file? = .ok (layers.project.getD .empty) := by
  have found := finds.project
  cases file? with
  | none =>
      cases present : layers.project with
      | none => rfl
      | some project => simp [present] at found
  | some path =>
      cases present : layers.project with
      | none => simp [present] at found
      | some project => simpa [present, projectSettings] using found

theorem Finds.distinct_project {file? : Option Path} (finds : environment.Finds file? layers)
    {project : Settings} (isProject : layers.project = some project) :
    project.functions.Distinct := by
  have found := finds.project
  rw [isProject, Option.map_some, Option.map_eq_some_iff] at found
  rcases found with ⟨path, _, loaded⟩
  exact Settings.distinct_functions_of_load loaded

/-- The variable of the policy is applied without fault, and every function gets the policy
that the layers say. -/
theorem Finds.exists_overridePolicy {file? : Option Path}
    (finds : environment.Finds file? layers) :
    ∃ chosen, environment.overridePolicy layers.merged = .ok chosen ∧
      ∀ function, chosen.policyFor function = layers.policyFor function := by
  have entries := layers.find?_merged fun _ isProject => finds.distinct_project isProject
  have read := finds.policy
  simp only [overridePolicy, Layers.policyFor]
  cases isSet : environment.policy with
  | none =>
      rw [isSet, Option.map_none, eq_comm, Option.map_eq_none_iff] at read
      refine ⟨layers.merged, rfl, ?_⟩
      intro function
      rw [Settings.policyFor_eq, entries, Layers.defaults_merged, read]
  | some text =>
      rw [isSet, Option.map_some, eq_comm, Option.map_eq_some_iff] at read
      rcases read with ⟨kind, chosen, parsed⟩
      refine ⟨layers.merged.withDefaultPolicy kind, ?_, ?_⟩
      · simp only [← parsed]
      · intro function
        rw [Settings.policyFor_withDefaultPolicy, entries, Layers.defaults_merged, chosen]

end Environment

/-! ## Bindings -/

theorem FailurePolicy.follows_ofResolved (resolved : ResolvedPolicy) :
    FailurePolicy.Follows resolved (.ofResolved resolved) := by
  cases resolved with
  | raise => exact .raise
  | log fallback =>
      cases fallback with
      | boolean flag => exact .boolean flag
      | number value => exact .number value
      | text content => exact .text content

theorem Declaration.name_of_bind {declaration : Declaration} {binding : Binding}
    (bound : declaration.bind = .ok binding) : binding.name = declaration.name := by
  simp only [bind] at bound
  split at bound
  · cases bound
  · split at bound
    · cases bound
    · cases bound
      rfl

/-- Settings choose the policy of a binding, and nothing else of it. -/
theorem Declaration.bind_configured (declaration : Declaration) (settings : Settings) :
    (declaration.configured settings).bind =
      declaration.bind.map fun binding =>
        { binding with policy := .ofResolved (settings.policyFor declaration.name) } := by
  rcases declaration with ⟨name, params, policy, sink, registries, native⟩
  simp only [configured, Declaration.bind]
  cases native with
  | none => rfl
  | some native =>
      simp only
      split <;> rfl

/-! ## Loads -/

namespace Environment

variable {environment : Environment} {layers : Layers}

theorem settles_loaded {chosen : Settings} {root? : Option Path}
    (policies : ∀ function, chosen.policyFor function = layers.policyFor function)
    (known : ∀ text, environment.level = some text → Text.lower text ∈ logLevels) :
    environment.Settles layers (.ok ⟨chosen, root?⟩) := by
  apply Settles.loaded _ known policies
  intro declaration plain bound
  have configured := declaration.bind_configured chosen
  rw [bound] at configured
  have named : plain.name = declaration.name := Declaration.name_of_bind bound
  have follows : FailurePolicy.Follows (layers.policyFor declaration.name)
      (.ofResolved (chosen.policyFor declaration.name)) := by
    rw [policies]
    exact FailurePolicy.follows_ofResolved _
  exact ⟨_, configured, named, follows⟩

theorem Finds.settles_loadProject {root? file? : Option Path}
    (finds : environment.Finds file? layers) :
    environment.Settles layers (environment.loadProject root? file?) := by
  rcases finds.exists_overridePolicy with ⟨chosen, overridden, policies⟩
  rw [Layers.merged, ← finds.userSettings_eq] at overridden
  simp only [loadProject, finds.projectSettings_eq, bind, Except.bind, assemble, overridden,
    overrideLevel]
  cases isSet : environment.level with
  | none =>
      apply settles_loaded policies
      simp [isSet]
  | some text =>
      by_cases known : Text.lower text ∈ logLevels
      · simp only [checkLevel, if_pos known, Except.map]
        apply settles_loaded
        · simpa only [Settings.policyFor_withLevel] using policies
        · simpa [isSet] using known
      · simp only [checkLevel, if_neg known, Except.map]
        exact .level text isSet known

/-- Every function gets the policy that the layers say, whichever way the settings are loaded,
and a binding that takes its policy from them does what that policy says. -/
theorem policyFor_loaded (environment : Environment) (layers : Layers) :
    (∀ start, environment.Finds
        ((environment.files.nearestProject? start).map settingsFileIn) layers →
      environment.Settles layers (environment.loadFromDirectory start)) ∧
    ∀ path, environment.Finds (some path) layers →
      environment.Settles layers (environment.loadFromFile path) := by
  constructor
  · intro start finds
    rw [loadFromDirectory_eq]
    exact finds.settles_loadProject
  · intro path finds
    rw [loadFromFile_eq]
    exact finds.settles_loadProject

/-- The project's entry for `f` is empty and still hides the user's, so `f` logs as the variable
says and falls back on the defaults of the project.  The entry for `g` is the user's. -/
theorem policyFor_loaded_hidden :
    let user : String :=
      "[defaults]\nfallback = \"user\"\n[functions.f]\npolicy = \"raise\"\n"
        ++ "[functions.g]\npolicy = \"raise\"\n"
    let project : String := "[defaults]\nfallback = true\n[functions.f]\n"
    let files : FileSystem :=
      ((FileSystem.empty ["work"]).put ["user.toml"] (.file (.ofString user))).put
        ["work", "stackcall.toml"] (.file (.ofString project))
    let environment : Environment := ⟨files, .ofString "/user.toml", some "LOG", some "warn"⟩
    let expected (settings : Settings) : Prop :=
      settings.policyFor "f" = .log (.boolean true) ∧ settings.policyFor "g" = .raise ∧
        settings.policyFor "h" = .log (.boolean true)
    (∃ loaded, environment.loadFromDirectory (.ofString "scripts") = .ok loaded ∧
      expected loaded.settings) ∧
    ∃ loaded, environment.loadFromFile (.ofString "stackcall.toml") = .ok loaded ∧
      expected loaded.settings := by
  intro user project files environment expected
  let layers : Layers :=
    { user := some ⟨some ⟨none, some (.text "user")⟩, none, none,
        .ofList [("f", ⟨some .raise, none⟩), ("g", ⟨some .raise, none⟩)]⟩
      project := some ⟨some ⟨none, some (.boolean true)⟩, none, none, .ofList [("f", .open)]⟩
      policy := some .log }
  have finds (path : Path) (loaded : (Settings.load files path).toOption = layers.project) :
      environment.Finds (some path) layers := by
    have userLoaded : (Settings.load files (.ofString "/user.toml")).toOption = layers.user := by
      decide +kernel
    have isUser := Exception.eq_ok_of_toOption userLoaded
    refine ⟨?_, ?_, by decide +kernel⟩
    · simp only [userFile?, environment, Settings.has_of_load isUser, if_true, Option.map_some,
        isUser, layers]
    · rw [Option.map_some, Exception.eq_ok_of_toOption loaded]
      rfl
  have outcome {result : Except LoadError LoadedSettings}
      (settled : environment.Settles layers result) :
      ∃ loaded, result = .ok loaded ∧ expected loaded.settings := by
    cases settled with
    | loaded loaded _ policies _ =>
        refine ⟨loaded, rfl, ?_, ?_, ?_⟩ <;> rw [policies] <;> rfl
    | level text isSet unknown =>
        cases isSet
        exact absurd (by decide +kernel) unknown
  have settled := policyFor_loaded environment layers
  refine ⟨outcome (settled.1 _ ?_), outcome (settled.2 _ (finds _ (by decide +kernel)))⟩
  have nearest : (files.nearestProject? (.ofString "scripts")).map settingsFileIn =
      some (.ofString "stackcall.toml") := by
    decide +kernel
  rw [nearest]
  exact finds _ (by decide +kernel)

end Environment

end ScriptBridge
