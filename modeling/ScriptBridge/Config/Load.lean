import ScriptBridge.Config.FileSystem
import ScriptBridge.Config.Text

/-!
# Loading settings

The settings of a host come in three layers: the user's own file, the file of the project,
and two variables of the environment.  A later layer wins.  The project is the nearest
directory above a start that has a settings file.  What is wrong with the project's file
or with a variable is an error; a user's file that cannot be loaded counts as empty.
-/

namespace ScriptBridge

/-- Why settings cannot be loaded. -/
inductive LoadError where
  /-- The file does not exist. -/
  | missing (path : Path)
  | unreadable
  /-- The file is no document, or not one of settings. -/
  | malformed (path : Path)
  | invalid (setting : InvalidSetting)
deriving DecidableEq

/-- The name of a project's settings file. -/
def settingsFileName : String :=
  "stackcall.toml"

/-- The user's settings file below a home directory. -/
def userSettingsFile (home : Path) : Path :=
  (home.child ".stackcall").child "config.toml"

/-- Reads and checks the settings in a file. -/
def Settings.load (files : FileSystem) (path : Path) : Except LoadError Settings :=
  match files.readText path with
  | .error .missing => .error (.missing path)
  | .error .unreadable => .error .unreadable
  | .ok text =>
      match Settings.parse? text with
      | none => .error (.malformed path)
      | some settings =>
          match settings.validate with
          | .ok () => .ok settings
          | .error invalid => .error (.invalid invalid)

/-- What a host finds around it. -/
structure Environment where
  files : FileSystem
  /-- The user's settings file, which need not exist. -/
  userFile : Path
  /-- The variable that sets the default policy. -/
  policy : Option String
  /-- The variable that sets the log level. -/
  level : Option String

/-- All layers taken together, and the directory of the project. -/
structure LoadedSettings where
  settings : Settings
  projectRoot : Option Path
deriving DecidableEq

/-- Was there a project? -/
def LoadedSettings.isProject (loaded : LoadedSettings) : Bool :=
  loaded.projectRoot.isSome

/-- The settings file of a directory. -/
def settingsFileIn (directory : Path) : Path :=
  directory.child settingsFileName

/-- The first of several directories that has a settings file, with the settings in it;
without one nothing is set. -/
def findProject (files : FileSystem) :
    List Path → Except LoadError (Option Path × Settings)
  | [] => .ok (none, .empty)
  | directory :: rest =>
      if files.has (settingsFileIn directory) then
        (Settings.load files (settingsFileIn directory)).map fun settings =>
          (some directory, settings)
      else findProject files rest

namespace Environment

variable (environment : Environment)

/-- The user's own settings. -/
def userSettings : Settings :=
  match Settings.load environment.files environment.userFile with
  | .ok settings => settings
  | .error _ => .empty

/-- Applies the variable of the policy. -/
def overridePolicy (settings : Settings) : Except InvalidSetting Settings :=
  match environment.policy with
  | none => .ok settings
  | some text =>
      match PolicyKind.parse? text with
      | some kind => .ok (settings.withDefaultPolicy kind)
      | none => .error (.policy "STACKCALL_POLICY" text)

/-- Applies the variable of the log level. -/
def overrideLevel (settings : Settings) : Except InvalidSetting Settings :=
  match environment.level with
  | none => .ok settings
  | some text => (checkLevel "STACKCALL_LOG" text).map fun () => settings.withLevel text

/-- Puts a project's settings over the user's, and the variables over both. -/
def assemble (projectRoot : Option Path) (project : Settings) :
    Except LoadError LoadedSettings :=
  match environment.overridePolicy (environment.userSettings.merge project) with
  | .error invalid => .error (.invalid invalid)
  | .ok settings =>
      match environment.overrideLevel settings with
      | .error invalid => .error (.invalid invalid)
      | .ok settings => .ok ⟨settings, projectRoot⟩

/-- Loads the settings of the project that a directory belongs to. -/
def loadFromDirectory (start : Path) : Except LoadError LoadedSettings :=
  match findProject environment.files start.ancestors with
  | .error error => .error error
  | .ok (root, project) => environment.assemble root project

/-- Loads the settings of the project whose file is given. -/
def loadFromFile (path : Path) : Except LoadError LoadedSettings :=
  match Settings.load environment.files path with
  | .error error => .error error
  | .ok project => environment.assemble path.parent? project

end Environment

end ScriptBridge
