import ScriptBridge.Proofs.Config.Load

/-!
# Broken layers

`Environment.Faulty` lists what can be wrong with what takes part in a load: a file that is
there and cannot be read, parsed or validated, and a variable that says nothing sensible.  All of
it is rejected but for one thing.  A user's file that is broken is taken for a file that is not
there, so a load can return settings although a layer is missing from them.
-/

namespace ScriptBridge

/-- The settings in a file cannot be used, for this reason. -/
inductive Settings.RejectedAt (files : FileSystem) (path : Path) : LoadError → Prop where
  | missing (read : files.readText path = .error .missing) :
      RejectedAt files path (.missing path)
  | unreadable (read : files.readText path = .error .unreadable) :
      RejectedAt files path .unreadable
  | malformed (text : String) (read : files.readText path = .ok text)
      (unparsed : Settings.parse? text = none) : RejectedAt files path (.malformed path)
  | invalid (text : String) (settings : Settings) (invalid : InvalidSetting)
      (read : files.readText path = .ok text) (parsed : Settings.parse? text = some settings)
      (rejected : settings.validate = .error invalid) : RejectedAt files path (.invalid invalid)

theorem Settings.load_eq_error_iff {files : FileSystem} {path : Path} {error : LoadError} :
    Settings.load files path = .error error ↔ Settings.RejectedAt files path error := by
  constructor
  · intro failed
    simp only [Settings.load] at failed
    split at failed
    · rename_i read
      cases failed
      exact .missing read
    · rename_i read
      cases failed
      exact .unreadable read
    · rename_i text read
      split at failed
      · rename_i unparsed
        cases failed
        exact .malformed text read unparsed
      · rename_i settings parsed
        split at failed
        · cases failed
        · rename_i invalid rejected
          cases failed
          exact .invalid text settings invalid read parsed rejected
  · intro rejected
    cases rejected with
    | missing read => simp only [Settings.load, read]
    | unreadable read => simp only [Settings.load, read]
    | malformed text read unparsed => simp only [Settings.load, read, unparsed]
    | invalid text settings invalid read parsed rejected =>
        simp only [Settings.load, read, parsed, rejected]

/-- The empty path leads nowhere. -/
theorem FileSystem.has_empty (files : FileSystem) : files.has .empty = false := by
  simp [has, resolve, admits, start, Path.empty, Path.toString]

theorem checkLevel_eq_error_iff {field value : String} {invalid : InvalidSetting} :
    checkLevel field value = .error invalid ↔
      Text.lower value ∉ logLevels ∧ invalid = .level field value := by
  by_cases known : Text.lower value ∈ logLevels
  · simp [checkLevel, known]
  · simp [checkLevel, known, eq_comm]

namespace Environment

variable {environment : Environment}

/-- Something that takes part in a load with this project's file is broken. -/
inductive Faulty (environment : Environment) (file? : Option Path) : LoadError → Prop where
  | user (error : LoadError) (present : environment.files.has environment.userFile = true)
      (rejected : Settings.RejectedAt environment.files environment.userFile error) :
      Faulty environment file? error
  | project (path : Path) (error : LoadError) (isProject : file? = some path)
      (rejected : Settings.RejectedAt environment.files path error) :
      Faulty environment file? error
  | policy (text : String) (isSet : environment.policy = some text)
      (unknown : PolicyKind.parse? text = none) :
      Faulty environment file? (.invalid (.policy "STACKCALL_POLICY" text))
  | level (text : String) (isSet : environment.level = some text)
      (unknown : Text.lower text ∉ logLevels) :
      Faulty environment file? (.invalid (.level "STACKCALL_LOG" text))

/-- A load returns settings exactly if nothing that takes part in it is broken, and otherwise it
says what is. -/
structure RejectsFaults (environment : Environment) (file? : Option Path)
    (result : Except LoadError LoadedSettings) : Prop where
  returns_iff : (∃ loaded, result = .ok loaded) ↔ ∀ error, ¬environment.Faulty file? error
  faulty_of_error : ∀ error, result = .error error → environment.Faulty file? error

/-- The user's file is there and broken. -/
def UserFileBroken (environment : Environment) : Prop :=
  environment.files.has environment.userFile = true ∧
    ∃ error, Settings.RejectedAt environment.files environment.userFile error

/-- The same surroundings for a user without a file. -/
def withoutUserFile (environment : Environment) : Environment :=
  { environment with userFile := .empty }

/-- Of the results of a load with the user's file and without it: the first rejects what is broken
unless that is the user's file alone.  A broken file of the user is dropped, and all else that is
broken is rejected still. -/
structure DropsOnlyUser (environment : Environment) (file? : Option Path)
    (result without : Except LoadError LoadedSettings) : Prop where
  rejects_iff : environment.RejectsFaults file? result ↔
    (environment.UserFileBroken → ∃ error, environment.withoutUserFile.Faulty file? error)
  dropped : environment.UserFileBroken → result = without
  rest : environment.withoutUserFile.RejectsFaults file? without

/-! ## What each layer rejects -/

theorem projectSettings_eq_error_iff {file? : Option Path} {error : LoadError} :
    environment.projectSettings file? = .error error ↔
      ∃ path, file? = some path ∧ Settings.RejectedAt environment.files path error := by
  cases file? with
  | none => simp [projectSettings]
  | some path => simp [projectSettings, Settings.load_eq_error_iff]

/-- Whether the variable of the policy is rejected does not depend on the settings. -/
theorem overridePolicy_eq_error_iff {settings : Settings} {invalid : InvalidSetting} :
    environment.overridePolicy settings = .error invalid ↔
      ∃ text, environment.policy = some text ∧ PolicyKind.parse? text = none ∧
        invalid = .policy "STACKCALL_POLICY" text := by
  simp only [overridePolicy]
  cases environment.policy with
  | none => simp
  | some text =>
      cases parsed : PolicyKind.parse? text with
      | none => simp [parsed, eq_comm]
      | some kind => simp [parsed]

theorem overrideLevel_eq_error_iff {settings : Settings} {invalid : InvalidSetting} :
    environment.overrideLevel settings = .error invalid ↔
      ∃ text, environment.level = some text ∧ Text.lower text ∉ logLevels ∧
        invalid = .level "STACKCALL_LOG" text := by
  simp only [overrideLevel]
  cases environment.level with
  | none => simp
  | some text =>
      simp only [Option.some.injEq, exists_eq_left', ← checkLevel_eq_error_iff]
      cases checkLevel "STACKCALL_LOG" text <;> simp [Except.map]

theorem faulty_of_assemble {root? file? : Option Path} {project : Settings} {error : LoadError}
    (failed : environment.assemble root? project = .error error) :
    environment.Faulty file? error := by
  simp only [assemble] at failed
  split at failed
  · rename_i invalid rejected
    rcases overridePolicy_eq_error_iff.mp rejected with ⟨text, isSet, unknown, rfl⟩
    cases failed
    exact .policy text isSet unknown
  · split at failed
    · rename_i invalid rejected
      rcases overrideLevel_eq_error_iff.mp rejected with ⟨text, isSet, unknown, rfl⟩
      cases failed
      exact .level text isSet unknown
    · cases failed

theorem faulty_of_loadProject {root? file? : Option Path} {error : LoadError}
    (failed : environment.loadProject root? file? = .error error) :
    environment.Faulty file? error := by
  cases found : environment.projectSettings file? with
  | error thrown =>
      simp only [loadProject, found, bind, Except.bind] at failed
      cases failed
      rcases projectSettings_eq_error_iff.mp found with ⟨path, isProject, rejected⟩
      exact .project path _ isProject rejected
  | ok project =>
      simp only [loadProject, found, bind, Except.bind] at failed
      exact faulty_of_assemble failed

/-- A load that returns has met no fault, other than one of the user's file. -/
theorem userFileBroken_of_faulty {root? file? : Option Path} {loaded : LoadedSettings}
    (returned : environment.loadProject root? file? = .ok loaded) {error : LoadError}
    (faulty : environment.Faulty file? error) : environment.UserFileBroken := by
  rcases Exception.bind_eq_ok_iff.mp returned with ⟨project, projectLoaded, assembled⟩
  rcases environment.assemble_eq_ok_iff.mp assembled with ⟨chosen, settings, policy, level, -⟩
  cases faulty with
  | user error present rejected => exact ⟨present, error, rejected⟩
  | project path error isProject rejected =>
      rw [projectSettings_eq_error_iff.mpr ⟨path, isProject, rejected⟩] at projectLoaded
      cases projectLoaded
  | policy text isSet unknown =>
      rw [overridePolicy_eq_error_iff.mpr ⟨text, isSet, unknown, rfl⟩] at policy
      cases policy
  | level text isSet unknown =>
      rw [overrideLevel_eq_error_iff.mpr ⟨text, isSet, unknown, rfl⟩] at level
      cases level

theorem rejectsFaults_loadProject (sound : ¬environment.UserFileBroken)
    (root? file? : Option Path) :
    environment.RejectsFaults file? (environment.loadProject root? file?) := by
  refine ⟨?_, fun _ failed => faulty_of_loadProject failed⟩
  constructor
  · rintro ⟨loaded, returned⟩ error faulty
    exact sound (userFileBroken_of_faulty returned faulty)
  · intro faultless
    cases result : environment.loadProject root? file? with
    | ok loaded => exact ⟨loaded, rfl⟩
    | error error => exact absurd (faulty_of_loadProject result) (faultless error)

/-! ## A broken file of the user -/

theorem UserFileBroken.exists_faulty (broken : environment.UserFileBroken)
    (file? : Option Path) : ∃ error, environment.Faulty file? error := by
  rcases broken with ⟨present, error, rejected⟩
  exact ⟨error, .user error present rejected⟩

theorem userSettings_of_broken (broken : environment.UserFileBroken) :
    environment.userSettings = .empty := by
  rcases broken with ⟨-, error, rejected⟩
  simp only [userSettings, Settings.load_eq_error_iff.mpr rejected]

theorem userSettings_withoutUserFile (environment : Environment) :
    environment.withoutUserFile.userSettings = .empty :=
  userSettings_of_absent (FileSystem.has_empty environment.files)

/-- A broken file of the user is taken for one that is not there. -/
theorem loadProject_of_broken (broken : environment.UserFileBroken) (root? file? : Option Path) :
    environment.loadProject root? file? =
      environment.withoutUserFile.loadProject root? file? := by
  simp only [loadProject, assemble, userSettings_of_broken broken, userSettings_withoutUserFile]
  rfl

theorem not_userFileBroken_of_absent
    (absent : environment.files.has environment.userFile = false) :
    ¬environment.UserFileBroken := by
  rintro ⟨present, -⟩
  cases absent.symm.trans present

theorem dropsOnlyUser_loadProject (environment : Environment) (root? file? : Option Path) :
    environment.DropsOnlyUser file? (environment.loadProject root? file?)
      (environment.withoutUserFile.loadProject root? file?) := by
  have without : environment.withoutUserFile.RejectsFaults file?
      (environment.withoutUserFile.loadProject root? file?) :=
    rejectsFaults_loadProject
      (not_userFileBroken_of_absent (FileSystem.has_empty environment.files)) root? file?
  refine ⟨?_, fun broken => loadProject_of_broken broken root? file?, without⟩
  by_cases broken : environment.UserFileBroken
  · rcases broken.exists_faulty file? with ⟨userError, userFaulty⟩
    rw [← loadProject_of_broken broken] at without
    constructor
    · intro rejects _
      cases result : environment.loadProject root? file? with
      | ok loaded => exact absurd userFaulty (rejects.returns_iff.mp ⟨loaded, result⟩ userError)
      | error error => exact ⟨error, without.faulty_of_error error result⟩
    · intro others
      rcases others broken with ⟨error, faulty⟩
      refine ⟨?_, fun _ failed => faulty_of_loadProject failed⟩
      constructor
      · intro returned
        exact absurd faulty (without.returns_iff.mp returned error)
      · intro faultless
        exact absurd userFaulty (faultless userError)
  · exact iff_of_true (rejectsFaults_loadProject broken root? file?) fun isBroken =>
      absurd isBroken broken

/-- A load, from a directory or from a file, rejects what is broken unless that is the user's file
alone. -/
theorem faults_rejected_except_user (environment : Environment) :
    (∀ start, environment.DropsOnlyUser
      ((environment.files.nearestProject? start).map settingsFileIn)
      (environment.loadFromDirectory start)
      (environment.withoutUserFile.loadFromDirectory start)) ∧
    ∀ path, environment.DropsOnlyUser (some path) (environment.loadFromFile path)
      (environment.withoutUserFile.loadFromFile path) := by
  simp only [loadFromDirectory_eq, loadFromFile_eq]
  constructor
  · intro start
    exact dropsOnlyUser_loadProject environment _ _
  · intro path
    exact dropsOnlyUser_loadProject environment _ _

/-- A project's file is malformed, and the load says so: if the user has no file, and also if
the user's file sets a log level that is none. -/
theorem faults_rejected_except_user_malformed :
    let user : String := "[logging]\nlevel = \"chatty\"\n"
    let project : String := "[defaults]\npolicy = \"ignore\"\n"
    let files : FileSystem :=
      ((FileSystem.empty ["work"]).put ["user.toml"] (.file (.ofString user))).put
        ["work", "stackcall.toml"] (.file (.ofString project))
    let careless : Environment := ⟨files, .ofString "/user.toml", none, none⟩
    let plain : Environment := ⟨files, .ofString "/none.toml", none, none⟩
    let file : Path := .ofString "stackcall.toml"
    plain.RejectsFaults (some file) (plain.loadFromFile file) ∧
    careless.UserFileBroken ∧
    careless.RejectsFaults (some file) (careless.loadFromFile file) ∧
    careless.loadFromDirectory (.ofString "scripts") = .error (.malformed file) := by
  intro user project files careless plain file
  have present : careless.files.has careless.userFile = true := by decide +kernel
  have rejected :
      Exception.thrown? (Settings.load careless.files careless.userFile) =
        some (.invalid (.level "logging.level" "chatty")) := by
    decide +kernel
  have broken : careless.UserFileBroken :=
    ⟨present, _, Settings.load_eq_error_iff.mp (Exception.eq_error_of_thrown? rejected)⟩
  have sound : ¬plain.UserFileBroken := not_userFileBroken_of_absent (by decide +kernel)
  have malformed : Exception.thrown? (Settings.load files file) = some (.malformed file) := by
    decide +kernel
  have faulty : careless.withoutUserFile.Faulty (some file) (.malformed file) :=
    .project file _ rfl (Settings.load_eq_error_iff.mp (Exception.eq_error_of_thrown? malformed))
  refine ⟨?_, broken, ?_, ?_⟩
  · exact ((faults_rejected_except_user plain).2 file).rejects_iff.mpr fun isBroken =>
      absurd isBroken sound
  · exact ((faults_rejected_except_user careless).2 file).rejects_iff.mpr fun _ => ⟨_, faulty⟩
  · rw [((faults_rejected_except_user careless).1 _).dropped broken]
    exact Exception.eq_error_of_thrown? (by decide +kernel)

/-- A user's file sets a log level that is none.  A load of nothing else returns the settings
of a user who has no file. -/
theorem broken_user_file_dropped :
    let user : String := "[logging]\nlevel = \"chatty\"\n"
    let files : FileSystem :=
      (FileSystem.empty ["work"]).put ["work", "global.toml"] (.file (.ofString user))
    let environment : Environment := ⟨files, .ofString "global.toml", none, none⟩
    environment.Faulty none (.invalid (.level "logging.level" "chatty")) ∧
    environment.loadFromDirectory (.ofString ".") = .ok ⟨.empty, none⟩ ∧
    ¬environment.RejectsFaults
      ((environment.files.nearestProject? (.ofString ".")).map settingsFileIn)
      (environment.loadFromDirectory (.ofString ".")) := by
  intro user files environment
  have present : environment.files.has environment.userFile = true := by decide +kernel
  have rejected :
      Exception.thrown? (Settings.load environment.files environment.userFile) =
        some (.invalid (.level "logging.level" "chatty")) := by
    decide +kernel
  have faulty (file? : Option Path) :
      environment.Faulty file? (.invalid (.level "logging.level" "chatty")) :=
    .user _ present (Settings.load_eq_error_iff.mp (Exception.eq_error_of_thrown? rejected))
  have returned : environment.loadFromDirectory (.ofString ".") = .ok ⟨.empty, none⟩ :=
    Exception.eq_ok_of_toOption (by decide +kernel)
  refine ⟨faulty none, returned, ?_⟩
  intro rejects
  exact rejects.returns_iff.mp ⟨_, returned⟩ _ (faulty _)

end Environment

end ScriptBridge
