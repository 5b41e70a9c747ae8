import Cleave.Command.Invocation
import Cleave.Data.Json
import Cleave.Profile.Compile
import Cleave.Profile.Lookup
import Cleave.Run

/-!
# Consoles

A command works on a world and prints to two streams. What goes wrong ends the command and is printed with its
causes.
-/

namespace Cleave.Command

/-- Why a command fails. -/
inductive Failure
  | settings (e : SettingsError)
  | unknownProfile (e : UnknownProfile)
  | profile (name : String) (e : InvalidProfile)
  | check (name : String) (e : InvalidProfile)
  | noCheck (name : String)
  | run (e : RunError)
  | restore (source : Path) (e : WriteError)
  | settingsExist (path : Path)
  | settingsDir (dir : Path) (cause : DiskError)
  | settingsFile (path : Path) (cause : DiskError)
  | regressed (v : Verification) (source : Path)
  | inconclusive (v : Verification)

namespace Failure

/-- What both checks said. -/
def outcomes (v : Verification) : Text :=
  "before ".toList ++ v.before.label ++ ", after ".toList ++ v.after.label

/-- A name in quotes. -/
def quoted (name : String) : Text :=
  '\'' :: name.toList ++ ['\'']

/-- The wordings of a failure and of what caused it. -/
def chain : Failure → List Text
  | settings e => e.chain
  | unknownProfile e => [e.message]
  | profile name e => ["Failed to load profile ".toList ++ quoted name, e.message]
  | check name e => ["Failed to load check for profile ".toList ++ quoted name, e.message]
  | noCheck name => ["Profile ".toList ++ quoted name ++ " has no check command configured".toList]
  | run e => e.chain
  | restore source e => ("Failed to restore ".toList ++ source.text) :: e.chain
  | settingsExist path => [path.text ++ " already exists (use --force to overwrite)".toList]
  | settingsDir dir cause => ["Failed to create directory: ".toList ++ dir.text, cause.message]
  | settingsFile path cause => ["Failed to write config: ".toList ++ path.text, cause.message]
  | regressed v source =>
    ["Verification regressed: ".toList ++ outcomes v ++
      ". Review the output or run \x60partition restore ".toList ++ source.text ++ "\x60".toList]
  | inconclusive v =>
    ["Verification inconclusive: ".toList ++ outcomes v ++
      ". Review the output before relying on it".toList]

end Failure

/-- A world, what has been printed, and how to print. -/
structure Console where
  world : World
  out : Text := []
  err : Text := []
  format : OutputFormat := .text
  verbose : Bool := false

/-- A command at work. -/
abbrev Work (α : Type) := ExceptT Failure (StateM Console) α

namespace Work

/-- Prints a line. -/
def say (line : Text) : Work Unit :=
  modify fun c => { c with out := c.out ++ line ++ ['\n'] }

/-- Prints a line on the stream for errors. -/
def note (line : Text) : Work Unit :=
  modify fun c => { c with err := c.err ++ line ++ ['\n'] }

/-- Whether results are printed as JSON. -/
def inJson : Work Bool :=
  return (← get).format == .json

/-- Prints a warning; in JSON the data themselves carry it. -/
def warn (line : Text) : Work Unit := do
  if !(← inJson) then note ("Warning: ".toList ++ line)

/-- Prints data. -/
def data (v : Value) : Work Unit :=
  say (Json.write v)

/-- Prints a line about what is going on, if asked to. -/
def trace (topic : String) (line : Text) : Work Unit := do
  let label := if topic = "" then "[verbose] " else "[verbose:" ++ topic ++ "] "
  if (← get).verbose then note (label.toList ++ line)

/-- Works on the world of the console. -/
def onWorld {ε α : Type} (failure : ε → Failure) (a : Effect ε α) : Work α :=
  ExceptT.mk fun c =>
    match a.run c.world with
    | (.ok r, world) => (.ok r, { c with world })
    | (.error e, world) => (.error (failure e), { c with world })

end Work

end Cleave.Command
