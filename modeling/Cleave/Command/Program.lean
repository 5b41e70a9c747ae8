import Cleave.Command.Report
import Cleave.Command.Session

/-!
# The program

Each command loads what it needs, does its work, and prints the result. A command that fails prints why and ends
with status 1; arguments that are not accepted end the program with status 2.
-/

namespace Cleave.Command

open Work

/-- What the program is told from outside. -/
structure Environment where
  home : Path
  /-- The settings file that the environment names. -/
  config : Option Text := none
  /-- The current time, as printed in reports. -/
  now : Text
  /-- How checks are carried out. -/
  checker : Checker

/-- The check command of a session, which must have one. -/
def checkCommand (s : Session) (r : SplitRequest) : Work CheckCommand := do
  let found ← orFail (.check s.name) (s.profile.checkCommand s.name.toList s.settings.baseDir?)
  match found with
  | none => throw (.noCheck s.name)
  | some c =>
    let c := match r.timeoutSeconds with
      | some n => { c with timeoutMillis := n * 1000 }
      | none => c
    trace "split" ("Check: ".toList ++ c.display ++ " (timeout ".toList ++
      Text.ofNat (c.timeoutMillis / 1000) ++ "s)".toList)
    return c

/-- What is printed of a run that broke off while writing. -/
def abortedValue (r : SplitRequest) (e : RunError) (written : List Path) : Value :=
  .table [("source", textValue r.source.text), ("error", textValue (chainText e.chain)),
    ("written", pathValues written), ("root_untouched", .bool true)]

/-- Prints a run that broke off while writing, in JSON. -/
def sayAborted (r : SplitRequest) : RunError → Work Unit
  | .aborted source e => do
    if ← inJson then data (abortedValue r (.aborted source e) e.written)
  | _ => pure ()

/-- Fails unless the checks around a run came back clean. -/
def judge (r : Report) : Work Unit :=
  match r.verification with
  | none => pure ()
  | some v =>
    match v.verdict with
    | .clean => pure ()
    | .regressed => throw (.regressed v r.source)
    | .unknown => throw (.inconclusive v)

/-- What is going on when a file is split. -/
def describeSplit (r : SplitRequest) : Text :=
  "Splitting ".toList ++ r.source.text ++ " into ".toList ++ r.outDir.text ++ " (dry_run=".toList ++
    (if r.dryRun then "true" else "false").toList ++ ")".toList

/-- What came out when a file was split. -/
def describeReport (r : Report) : Text :=
  Text.ofNat r.groups.length ++ " groups, ".toList ++ Text.ofNat r.extracted ++ " declarations, ".toList ++
    Text.ofNat r.failures.length ++ " scan failures".toList

/-- Carries out a run. -/
def runSplit (env : Environment) (s : Session) (e : Engine) (r : SplitRequest) (check : Option CheckCommand) :
    Work Report := do
  let options : RunOptions := { dryRun := r.dryRun, forceBackup := r.force, check }
  match ← onWorld (fun e : RunError => .run e)
      (Effect.result (Run.split env.checker e s.name.toList r.source r.outDir options)) with
  | .ok report => return report
  | .error e => do
    sayAborted r e
    throw (.run e)

/-- Splits a file. -/
def split (env : Environment) (s : Session) (r : SplitRequest) : Work Unit := do
  let e ← s.engine
  if r.check && r.dryRun then
    warn "--check is ignored with --dry-run; nothing is written, so nothing is verified".toList
  let check ← if r.check then do pure (some (← checkCommand s r)) else pure none
  trace "split" (describeSplit r)
  let report ← runSplit env s e r check
  trace "split" (describeReport report)
  if ← inJson then data (reportValue env.now report) else sayReport report
  judge report

/-- The domain of a declaration, unless it stays in the root. -/
def domainOf (e : Engine) (name : Text) : Option DomainKey :=
  match e.table.assign name with
  | .domain key _ => some key
  | .retained => none

/-- The domain of a declaration as text. -/
def domainText (e : Engine) (name : Text) : Text :=
  ((domainOf e name).map DomainKey.text).getD "(root)".toList

/-- A scanned declaration as a value. -/
def spanValue (e : Engine) (s : Span) : Value :=
  .table [("name", textValue s.name), ("start_line", natValue (s.first + 1)),
    ("end_line", natValue (s.last + 1)),
    ("domain", ((domainOf e s.name).map fun key => textValue key.text).getD .null)]

/-- A scan as a value. -/
def scanValue (source : Path) (profile : String) (e : Engine) (d : Document) (o : ScanOutcome) : Value :=
  .table [("source", textValue source.text), ("profile", .string profile),
    ("lines", natValue d.lines.length), ("preamble_lines", natValue (Text.lines o.preamble).length),
    ("declarations", .list (o.declarations.map (spanValue e))),
    ("aggregator", (o.aggregator.map fun s => textValue s.name).getD .null),
    ("failures", .list (o.failures.map failureValue))]

/-- Prints a scan as text. -/
def sayScan (source : Path) (profile : String) (e : Engine) (d : Document) (o : ScanOutcome) : Work Unit := do
  if o.declarations.isEmpty then
    say ("No declarations found in ".toList ++ source.text ++ " (profile: ".toList ++ profile.toList ++
      ")".toList)
  else
    say (Text.padRight 40 "NAME".toList ++ [' '] ++ Text.padRight 12 "LINES".toList ++ " DOMAIN".toList)
    say rule
    for s in o.declarations do
      let lines := Text.ofNat (s.first + 1) ++ ['-'] ++ Text.ofNat (s.last + 1)
      say (Text.padRight 40 s.name ++ [' '] ++ Text.padRight 12 lines ++ [' '] ++ domainText e s.name)
    say []
    say ("Found ".toList ++ Text.ofNat o.declarations.length ++ " declaration(s) in ".toList ++
      Text.ofNat d.lines.length ++ " lines".toList)
  if let some a := o.aggregator then say ("Aggregator: ".toList ++ a.name)
  for failure in o.failures do warn failure.message

/-- Scans a file. -/
def scan (s : Session) (source : Path) : Work Unit := do
  let e ← s.engine
  let text ← onWorld (fun cause => .run (.unreadable source cause)) (Effect.readText source)
  let d := Document.ofText source text
  let o := e.patterns.scan d
  trace "scan" (Text.ofNat d.lines.length ++ " lines, ".toList ++ Text.ofNat o.declarations.length ++
    " declarations, ".toList ++ Text.ofNat o.residue.length ++ " residue runs".toList)
  if ← inJson then data (scanValue source s.name e d o) else sayScan source s.name e d o

/-- Whether the rules or the list of kept names decide about a name. -/
def isDecided (e : Engine) (name : Text) : Bool :=
  match e.table.assign name with
  | .domain _ matched => matched
  | .retained => e.table.keeps name

/-- Tells where names belong. -/
def classify (s : Session) (names : List Text) : Work Unit := do
  let e ← s.engine
  trace "classify" (Text.ofNat e.table.rules.length ++ " rules in profile '".toList ++ s.name.toList ++
    "'".toList)
  if ← inJson then
    data (.list (names.map fun name =>
      .table [("domain", textValue (domainText e name)), ("matched", .bool (isDecided e name)),
        ("name", textValue name)]))
  else for name in names do say (name ++ '\t' :: domainText e name)

/-- Puts a backup in the place of its source. -/
def restore (source : Path) : Work Unit := do
  trace "restore" ("Restoring ".toList ++ source.text)
  let backup ← onWorld (.restore source) (Commit.restore source)
  if ← inJson then
    data (.table [("backup", textValue backup.text), ("restored", textValue source.text)])
  else say ("Restored ".toList ++ source.text ++ " from ".toList ++ backup.text)

/-- Writes a starter file. -/
def init (dir : Path) (force : Bool) : Work Unit := do
  trace "init" ("Initializing config in: ".toList ++ dir.text)
  let path := dir.join (.ofString (Settings.fileNames.headD ""))
  if (← onWorld (fun e : Failure => e) (Effect.present path)) && !force then throw (.settingsExist path)
  onWorld (.settingsDir dir) (Effect.ensureDirs dir.ancestors)
  onWorld (.settingsFile path) (Effect.writeFile path (Utf8.encode Project.starterText))
  if ← inJson then data (.table [("created", textValue path.text)])
  else say ("Created ".toList ++ path.text)

/-- Lists the profiles. -/
def profiles (s : Session) : Work Unit := do
  let project := s.settings.project
  let describe (name : String) : String :=
    ((project.available.get? name).bind Profile.description).getD ""
  if ← inJson then
    data (.list (project.profileNames.map fun name =>
      .table [("description", .string (describe name)), ("name", .string name),
        ("selected", .bool (name == s.name))]))
  else
    for name in project.profileNames do
      let mark := if name == s.name then '*' else ' '
      say ([mark, ' '] ++ Text.padRight 14 name.toList ++ [' '] ++ (describe name).toList)

/-- Carries out a request. -/
def carryOut (env : Environment) (common : Common) : Request → Work Unit
  | .split r => do split env (← Session.start env.home common) r
  | .scan source => do scan (← Session.start env.home common) source
  | .classify names => do classify (← Session.start env.home common) names
  | .restore source => restore source
  | .init dir force => init dir force
  | .profiles => do profiles (← Session.start env.home common)

/-- Carries out a request from beginning to end. Without a format on the command line the user's settings give
one. -/
def work (env : Environment) (common : Common) (request : Request) : Work Unit := do
  let format ← match common.format with
    | some f => pure f
    | none => do pure (← onWorld .settings (Settings.loadUser env.home)).defaultFormat
  modify fun c => { c with format, verbose := common.verbose }
  trace "" "partition starting".toList
  carryOut env common request
  trace "" "Command completed successfully".toList

/-- What the program leaves behind. -/
structure Exit where
  status : Nat
  out : Text
  err : Text
  world : World

/-- What is printed about how to use the program. -/
def usage : Text :=
  "Usage: partition [OPTIONS] <split|scan|classify|restore|init|profiles> [ARGS]\n".toList

/-- Runs the program. -/
def run (env : Environment) (args : List Text) (w : World) : Exit :=
  match Invocation.parse args env.config with
  | .invalid => { status := 2, out := [], err := usage, world := w }
  | .help => { status := 0, out := usage, err := [], world := w }
  | .version name => { status := 0, out := name ++ ' ' :: version ++ ['\n'], err := [], world := w }
  | .run common request =>
    match (work env common request).run { world := w } with
    | (.ok _, c) => { status := 0, out := c.out, err := c.err, world := c.world }
    | (.error e, c) =>
      let line := "Error: ".toList ++ chainText e.chain ++ ['\n']
      { status := 1, out := c.out, err := c.err ++ line, world := c.world }

end Cleave.Command
