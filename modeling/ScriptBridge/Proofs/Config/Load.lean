import ScriptBridge.Config.Load
import ScriptBridge.Proofs.Exception

/-!
# What a load takes together

Loading from a directory and loading from a file differ in how the project's file is found, and
in nothing else: both are `Environment.loadProject` on the file that was found, if there is one.
What is true of every load is proved of this one function.
-/

namespace ScriptBridge

/-- A file that has settings can be read, parsed and validated. -/
theorem Settings.load_eq_ok_iff {files : FileSystem} {path : Path} {settings : Settings} :
    Settings.load files path = .ok settings ↔
      ∃ text, files.readText path = .ok text ∧ Settings.parse? text = some settings ∧
        settings.validate = .ok () := by
  constructor
  · intro loaded
    simp only [Settings.load] at loaded
    split at loaded
    · cases loaded
    · cases loaded
    · rename_i text read
      split at loaded
      · cases loaded
      · rename_i found parsed
        split at loaded
        · rename_i valid
          cases loaded
          exact ⟨text, read, parsed, valid⟩
        · cases loaded
  · rintro ⟨text, read, parsed, valid⟩
    simp only [Settings.load, read, parsed, valid]

/-- A file with settings is there. -/
theorem Settings.has_of_load {files : FileSystem} {path : Path} {settings : Settings}
    (loaded : Settings.load files path = .ok settings) : files.has path = true := by
  rcases Settings.load_eq_ok_iff.mp loaded with ⟨text, read, -, -⟩
  simp only [FileSystem.readText] at read
  simp only [FileSystem.has]
  split at read
  · rename_i found
    rw [found]
  all_goals cases read

/-- The nearest directory, from a start on upwards, that has a settings file. -/
def FileSystem.nearestProject? (files : FileSystem) (start : Path) : Option Path :=
  start.ancestors.find? fun directory => files.has (settingsFileIn directory)

theorem findProject_eq (files : FileSystem) (directories : List Path) :
    findProject files directories =
      match directories.find? fun directory => files.has (settingsFileIn directory) with
      | some directory =>
          (Settings.load files (settingsFileIn directory)).map fun settings =>
            (some directory, settings)
      | none => .ok (none, .empty) := by
  induction directories with
  | nil => rfl
  | cons directory rest ih =>
      rw [findProject, List.find?_cons]
      cases files.has (settingsFileIn directory) with
      | true => rfl
      | false => exact ih

namespace Environment

variable (environment : Environment)

/-- The user's settings file, if it is there. -/
def userFile? : Option Path :=
  if environment.files.has environment.userFile then some environment.userFile else none

theorem userSettings_of_absent {environment : Environment}
    (absent : environment.files.has environment.userFile = false) :
    environment.userSettings = .empty := by
  simp only [userSettings]
  split
  · rename_i settings loaded
    rw [Settings.has_of_load loaded] at absent
    cases absent
  · rfl

/-- The settings in a project's file; a project without a file sets nothing. -/
def projectSettings : Option Path → Except LoadError Settings
  | some path => Settings.load environment.files path
  | none => .ok .empty

/-- Loads the settings of a project whose file has been found, or has not. -/
def loadProject (root? file? : Option Path) : Except LoadError LoadedSettings := do
  let project ← environment.projectSettings file?
  environment.assemble root? project

theorem loadFromFile_eq (path : Path) :
    environment.loadFromFile path = environment.loadProject path.parent? (some path) := by
  simp only [loadFromFile, loadProject, projectSettings]
  cases Settings.load environment.files path <;> rfl

theorem loadFromDirectory_eq (start : Path) :
    environment.loadFromDirectory start =
      environment.loadProject (environment.files.nearestProject? start)
        ((environment.files.nearestProject? start).map settingsFileIn) := by
  simp only [loadFromDirectory, findProject_eq, FileSystem.nearestProject?]
  cases start.ancestors.find? fun directory =>
      environment.files.has (settingsFileIn directory) with
  | none => rfl
  | some directory =>
      simp only [loadProject, projectSettings, Option.map_some]
      cases Settings.load environment.files (settingsFileIn directory) <;> rfl

theorem assemble_eq_ok_iff {root? : Option Path} {project : Settings}
    {loaded : LoadedSettings} :
    environment.assemble root? project = .ok loaded ↔
      ∃ chosen settings,
        environment.overridePolicy (environment.userSettings.merge project) = .ok chosen ∧
          environment.overrideLevel chosen = .ok settings ∧ ⟨settings, root?⟩ = loaded := by
  simp only [assemble]
  cases environment.overridePolicy (environment.userSettings.merge project) with
  | error invalid => simp
  | ok chosen =>
      cases leveled : environment.overrideLevel chosen with
      | error invalid => simp [leveled]
      | ok settings => simp [leveled]

end Environment

end ScriptBridge
