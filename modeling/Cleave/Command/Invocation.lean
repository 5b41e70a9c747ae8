import Cleave.Command.Arguments
import Cleave.Pattern.Basic
import Cleave.Profile.Codec
import Cleave.Path

/-!
# Invocations

The commands of the program and their options. Some options may stand before or after the name of the command;
of two the later one counts.
-/

namespace Cleave.Command

/-- What every command takes. -/
structure Common where
  format : Option OutputFormat := none
  verbose : Bool := false
  /-- The settings file of the project. -/
  config : Option Path := none
  profile : Option String := none
  deriving DecidableEq, Repr

/-- How a file is to be split. -/
structure SplitRequest where
  source : Path
  outDir : Path
  dryRun : Bool := false
  check : Bool := false
  timeoutSeconds : Option Nat := none
  force : Bool := false
  deriving DecidableEq, Repr

/-- A command with its arguments. -/
inductive Request
  | split (r : SplitRequest)
  | scan (source : Path)
  | classify (names : List Text)
  | restore (source : Path)
  | init (dir : Path) (force : Bool)
  | profiles
  deriving DecidableEq, Repr

/-- What the arguments ask for. -/
inductive Invocation
  | run (common : Common) (request : Request)
  /-- Print the version under a name. -/
  | version (name : Text)
  | help
  /-- The arguments are not accepted. -/
  | invalid
  deriving DecidableEq, Repr

/-- The name of the program. -/
def programName : Text := "partition".toList

/-- The version of the program. -/
def version : Text := "0.1.0".toList

/-- Paths must not be empty. -/
def acceptsPath (t : Text) : Bool :=
  t != []

/-- The options of every command. -/
def commonFlags : List Flag :=
  [{ long := "format", short := some 'f', takesValue := true
     accepts := fun t => (OutputFormat.ofName? (String.ofList t)).isSome },
   { long := "verbose", short := some 'v' },
   { long := "config", short := some 'c', takesValue := true, accepts := acceptsPath },
   { long := "profile", short := some 'p', takesValue := true },
   { long := "help", short := some 'h' },
   { long := "version", short := some 'V' }]

/-- The names of the commands. -/
def commandNames : List Text :=
  ["split", "scan", "classify", "restore", "init", "profiles", "help"].map String.toList

/-- What may stand before the name of a command. -/
def rootGrammar : Grammar where
  flags := commonFlags
  subcommands := commandNames

/-- What may stand after the name of a command. -/
def grammar (name : Text) : Grammar :=
  if name = "split".toList then
    { flags := commonFlags ++
        [{ long := "out", short := some 'o', takesValue := true, accepts := acceptsPath },
         { long := "dry-run" }, { long := "check" }, { long := "force" },
         { long := "check-timeout", takesValue := true, accepts := fun t => (Pattern.number? t).isSome }]
      maxWords := some 1, acceptsWord := acceptsPath }
  else if name = "scan".toList || name = "restore".toList then
    { flags := commonFlags, maxWords := some 1, acceptsWord := acceptsPath }
  else if name = "classify".toList then { flags := commonFlags, maxWords := none }
  else if name = "init".toList then
    { flags := commonFlags ++ [{ long := "force" }], maxWords := some 1, acceptsWord := acceptsPath }
  else { flags := commonFlags }

/-- The request that a command and its arguments make. -/
def request? (name : Text) (f : Found) : Option Request :=
  let path? : Option Path := f.words.head?.map Path.mk
  if name = "split".toList then do
    let source ← path?
    let outDir ← f.value? "out"
    return .split {
      source, outDir := ⟨outDir⟩, dryRun := f.has "dry-run", check := f.has "check", force := f.has "force"
      timeoutSeconds := (f.value? "check-timeout").bind Pattern.number? }
  else if name = "scan".toList then path?.map .scan
  else if name = "classify".toList then if f.words = [] then none else some (.classify f.words)
  else if name = "restore".toList then path?.map .restore
  else if name = "init".toList then some (.init (path?.getD ⟨['.']⟩) (f.has "force"))
  else if name = "profiles".toList then some .profiles
  else none

/-- The common options, from those before and after the name of the command. A settings file may also be named
by the environment. -/
def common (outer inner : Found) (fromEnv : Option Text) : Common :=
  let value? (long : String) : Option Text := (inner.value? long).or (outer.value? long)
  { format := (value? "format").bind fun t => OutputFormat.ofName? (String.ofList t)
    verbose := outer.has "verbose" || inner.has "verbose"
    config := ((value? "config").or fromEnv).map Path.mk
    profile := (value? "profile").map String.ofList }

/-- Whether the environment names a settings file that is not accepted. It is looked at where the option is not
given. -/
def badVariable (outer inner : Found) (fromEnv : Option Text) : Bool :=
  fromEnv = some [] && !(outer.has "config" && inner.has "config")

/-- Reads the arguments of the program. `fromEnv` is the settings file that the environment names. -/
def Invocation.parse (args : List Text) (fromEnv : Option Text) : Invocation :=
  match rootGrammar.read none {} args with
  | .error .help => .help
  | .error .version => .version programName
  | .error .invalid => .invalid
  | .ok outer =>
    match outer.subcommand with
    | none => .invalid
    | some (name, rest) =>
      if name = "help".toList then .help
      else
        match (grammar name).read none {} rest with
        | .error .help => .help
        | .error .version => .version (programName ++ '-' :: name)
        | .error .invalid => .invalid
        | .ok inner =>
          match request? name inner with
          | none => .invalid
          | some request =>
            if badVariable outer inner fromEnv then .invalid
            else .run (common outer inner fromEnv) request

end Cleave.Command
