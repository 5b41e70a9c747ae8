import Cleave.Command.Console

/-!
# Sessions

A session holds the settings that are in force and the profile that is used.
-/

namespace Cleave.Command

open Work

/-- The settings and the profile of a command. -/
structure Session where
  settings : Settings
  name : String
  profile : Profile

/-- The project's settings file, as shown to a reader. -/
def Session.describePath : Option Path → Text
  | some path => "Loaded project config: ".toList ++ path.text
  | none => "No project config found, using built-in profiles".toList

/-- Turns a result into work. -/
def orFail {ε α : Type} (failure : ε → Failure) : Except ε α → Work α
  | .ok a => pure a
  | .error e => throw (failure e)

/-- Loads settings and chooses a profile. -/
def Session.start (home : Path) (common : Common) : Work Session := do
  let settings ← onWorld .settings (Settings.load home common.config)
  trace "config" (describePath settings.path)
  let (name, profile) ← orFail .unknownProfile (settings.project.select common.profile)
  trace "config" ("Using profile: ".toList ++ name.toList)
  return { settings, name, profile }

/-- The engine of the profile. -/
def Session.engine (s : Session) : Work Engine :=
  orFail (.profile s.name) (s.profile.compile s.name.toList)

end Cleave.Command
