import Cleave.Disk.World
import Cleave.Profile.File

/-!
# Finding settings

The settings of a project are in the nearest settings file at or above the current directory, unless a file is
named. The settings of a user are in a fixed place below the home directory.
-/

namespace Cleave

/-- Why settings cannot be loaded. -/
inductive SettingsError
  | unreadableUser (path : Path) (cause : DiskError)
  | malformedUser (path : Path)
  | unreadableProject (path : Path) (cause : DiskError)
  | malformedProject (path : Path)
  deriving DecidableEq, Repr

namespace SettingsError

/-- The wording of a file that cannot be understood. -/
def malformed (path : Path) : Text :=
  "Failed to parse ".toList ++ path.text ++ ": malformed settings".toList

/-- The wordings of the error and of what caused it. -/
def chain : SettingsError → List Text
  | unreadableUser path cause => ["Failed to read global config: ".toList ++ path.text, cause.message]
  | malformedUser path => ["Failed to parse global config".toList, malformed path]
  | unreadableProject path cause => ["Failed to read project config: ".toList ++ path.text, cause.message]
  | malformedProject path => ["Failed to parse project config".toList, malformed path]

end SettingsError

/-- All settings that are in force. -/
structure Settings where
  project : Project := {}
  user : UserSettings := {}
  /-- The settings file of the project, if there is one. -/
  path : Option Path := none

/-- The directory that holds the settings file of the project. -/
def Settings.baseDir? (s : Settings) : Option Path :=
  s.path.bind Path.parent?

namespace Settings

open Effect

/-- The names of settings files, most preferred first. -/
def fileNames : List String :=
  [".partition.toml", ".partition.yaml", ".partition.yml"]

/-- Where the settings files of a directory would be. -/
def candidates (dir : Path) : List Path :=
  fileNames.map fun name => dir.join (.ofString name)

/-- The first path of a list that leads to a regular file. -/
def firstFile {ε : Type} : List Path → Effect ε (Option Path)
  | [] => pure none
  | p :: ps => do if ← isFile p then return some p else firstFile ps

/-- The nearest settings file at or above a directory. -/
def findProject {ε : Type} (start : Path) : Effect ε (Option Path) :=
  firstFile (start.ancestors.flatMap candidates)

/-- Where the settings of a user are kept. -/
def userPath (home : Path) : Path :=
  home.join (.ofString ".config/partition/config.toml")

/-- Loads the settings of a user. Without a file the defaults are in force. -/
def loadUser (home : Path) : Effect SettingsError UserSettings := do
  let path := userPath home
  if !(← present path) then return {}
  let text ← adapt (.unreadableUser path) (readText path)
  match UserSettings.parse? text with
  | some s => return s
  | none => throw (.malformedUser path)

/-- Loads a settings file of a project. -/
def loadProject (path : Path) : Effect SettingsError Project := do
  let text ← adapt (.unreadableProject path) (readText path)
  match Project.parse? (.ofPath path) text with
  | some p => return p
  | none => throw (.malformedProject path)

/-- Loads all settings: those of the user, then those of the named file or of the nearest one. -/
def load (home : Path) (named : Option Path) : Effect SettingsError Settings := do
  let user ← loadUser home
  let path ← match named with
    | some p => pure (some p)
    | none => do findProject (.ofLocation (← inspect fun w => .ok w.cwd))
  let project ← match path with
    | some p => loadProject p
    | none => pure {}
  return { project, user, path }

end Settings

end Cleave
