import Cleave.Shell.Grammar
import Cleave.Shell.Launch
import Cleave.Shell.Streams

/-!
# Running scripts

A script runs line by line and step by step on a state. A script whose time is up stops where it is.
-/

namespace Cleave.Shell

/-- Shows what the script does. -/
def State.trace (s : State) (t : Text) : State :=
  s.emit 2 (Utf8.encode ("+ ".toList ++ t ++ ['\n']))

/-- Sets variables one after the other. -/
def assignAll (g : Setting) (s : State) (settings : List (Text × Word)) : State :=
  settings.foldl (fun s (name, value) =>
    if s.ended then s
    else
      let (s, t) := s.textOf g value
      if s.ended then s
      else
        let s := if s.has 'x' then s.trace (name ++ '=' :: t) else s
        s.assign name t) s

/-- Runs the command that words make. -/
def runWords (g : Setting) (s : State) (ws : List Word) (rs : List Redirection) : State :=
  let settings := (ws.map assignment?).takeWhile Option.isSome
  let (s, words) := { s with outputStatus := 0 }.commandWords g (ws.drop settings.length)
  let settings := settings.reduceOption
  if s.ended then s
  else
    let isSpecial := words.head?.any specialCommands.contains
    let s := if s.has 'x' && words != [] then s.trace (Text.join [' '] words) else s
    let (opened, ready) := openStreams g s rs
    if !ready then { opened with streams := s.streams, ended := opened.ended || isSpecial }
    else
      let within := assignAll g opened settings
      if within.ended then { within with streams := s.streams }
      else if words = [] then { within with streams := s.streams, status := within.outputStatus }
      else
        let names := settings.map Prod.fst
        let done := runNamed g maxNesting true true { within with exported := names ++ within.exported } words
        let done := if words = ["exec".toList] then done else { done with streams := s.streams }
        if isSpecial || names = [] then done
        else
          let done := names.foldl (fun s name => s.restore (name, opened.values.lookup name)) done
          { done with exported := done.exported.filter fun n => !names.contains n || opened.exported.contains n }

/-- The largest number of rounds of a loop. One that goes on longer is taken to run until its time is up. -/
def maxRounds : Nat := 100000

/-- The state after a round of a loop, and whether the loop goes on. -/
def afterRound (s : State) : State × Bool :=
  match s.leaving with
  | none => (s, !s.ended)
  | some (.round n) =>
    if n ≤ 1 then ({ s with leaving := none }, !s.ended) else ({ s with leaving := some (.round (n - 1)) }, false)
  | some (.loop n) => ({ s with leaving := if n ≤ 1 then none else some (.loop (n - 1)) }, false)
  | some .call => (s, false)

/-- Repeats a body while a condition holds; `result` is the status of the last round. -/
def rounds (limit : Nat) (condition : State → State) (holds : Nat → Bool) (body : State → State) :
    (fuel result : Nat) → State → State
  | 0, _, s => s.proceed limit (max s.millis limit)
  | fuel + 1, result, s =>
    let (next, more) := afterRound (condition s)
    if !more then next
    else if !holds next.status then { next with status := result }
    else
      let (next, more) := afterRound (body next)
      if more then rounds limit condition holds body fuel next.status next else next

/-- Runs a body for each of some values. -/
def roundFor (body : State → Text → State) : List Text → State → State
  | [], s => s
  | value :: values, s =>
    let (next, more) := afterRound (body s value)
    if more then roundFor body values next else next

/-- Runs a loop. -/
def looping (s : State) (body : State → State) : State :=
  { body { s with loops := s.loops + 1 } with loops := s.loops }

/-- Runs something whose status only decides what comes next. -/
def guarding (s : State) (body : State → State) : State :=
  { body { s with guarded := true } with guarded := s.guarded }

/-- Whether a text fits one of some patterns. -/
def fitsAny (g : Setting) (t : Text) : State → List Word → State × Bool
  | s, [] => (s, false)
  | s, w :: ws =>
    let (s, pattern) := s.patternOf g w
    if s.ended || matchesPattern pattern t then (s, !s.ended) else fitsAny g t s ws

mutual

/-- Runs a command. -/
def runCommand (g : Setting) (s : State) : Command → State
  | .words ws rs => runWords g s ws rs
  | .group subshell body rs =>
    redirected g s rs fun s =>
      if subshell then g.enclosed s fun s => runSteps g s body else runSteps g s body
  | .branch condition yes no rs =>
    redirected g s rs fun s =>
      let s := guarding s fun s => runSteps g s condition
      if s.ended || s.leaving.isSome then s
      else if s.status = 0 then runSteps g s yes
      else if no.isEmpty then s.succeed
      else runSteps g s no
  | .loop whileFailing condition body rs =>
    redirected g s rs fun s =>
      looping s fun s =>
        rounds g.limit (fun s => guarding s fun s => runSteps g s condition) (fun n => (n == 0) != whileFailing)
          (fun s => runSteps g s body) maxRounds 0 s
  | .each name ws body rs =>
    redirected g s rs fun s =>
      let (s, values) := match ws with
        | some ws => s.wordsOf g ws
        | none => (s, s.arguments)
      if s.ended then s
      else if values = [] then s.succeed
      else looping s fun s => roundFor (fun s value => runSteps g (s.assign name value) body) values s
  | .choose subject cases rs =>
    redirected g s rs fun s =>
      let (s, t) := s.textOf g subject
      if s.ended then s else runCases g s t cases
  | .define name body => { s.succeed with functions := (name, body) :: s.functions.filter (·.1 != name) }

/-- Runs the first case that fits a text. -/
def runCases (g : Setting) (s : State) (t : Text) : List Case → State
  | [] => s.succeed
  | .mk patterns body :: cases =>
    match fitsAny g t s patterns with
    | (s, true) => if body.isEmpty then s.succeed else runSteps g s body
    | (s, false) => if s.ended then s else runCases g s t cases

/-- Runs the commands of a pipeline side by side; what each prints is the input of the next. -/
def runPipeline (g : Setting) (start : Nat) (s : State) : List Command → State
  | [] => s
  | [c] =>
    let done := g.enclosed { s with millis := start } fun s => runCommand g s c
    done.proceed g.limit (max s.millis done.millis)
  | c :: cs =>
    let (done, bytes) := { s with millis := start }.capture fun s => g.enclosed s fun s => runCommand g s c
    if done.ended then done
    else
      let rest := runPipeline g start ({ done with millis := max s.millis done.millis }.feed 0 bytes) cs
      { rest with streams := s.streams }

/-- Runs one step, if the step before it lets it. -/
def runStep (g : Setting) (s : State) : Step → State
  | .mk link ending negated pipeline =>
    let due := match link with
      | .always => true
      | .onSuccess => s.status == 0
      | .onFailure => s.status != 0
    let run (s : State) : State := match pipeline with
      | [c] => runCommand g s c
      | cs => runPipeline g s.millis s cs
    if s.ended || s.leaving.isSome || !due then s
    else if ending = .background then
      let done := g.enclosed s fun s => run (s.feed 0 [])
      { done with
        status := 0, millis := s.millis, ended := s.ended || done.killed
        jobs := s.jobs ++ [(done.status, done.millis)] }
    else if negated then
      let done := guarding s run
      if done.ended then done else { done with status := if done.status = 0 then 1 else 0 }
    else if ending = .chained then guarding s run
    else
      let done := run s
      { done with ended := done.ended || (done.has 'e' && !done.guarded && done.status != 0 && done.leaving.isNone) }

/-- Runs steps one after the other. -/
def runSteps (g : Setting) (s : State) : List Step → State
  | [] => s
  | step :: steps => runSteps g (runStep g s step) steps

end

/-- Runs the lines of a script until it ends. `idle` tells that nothing has been run. -/
def runLines (g : Setting) : (fuel : Nat) → (idle : Bool) → State → List Token → State
  | 0, _, s, _ => s
  | _, idle, s, [] => if idle then s.succeed else s
  | fuel + 1, idle, s, ts =>
    match line ts with
    | .error why => s.abort 2 ("Syntax error: ".toList ++ why)
    | .ok (steps, rest) =>
      let s := if s.has 'n' then s else runSteps g s steps
      if s.ended || s.leaving.isSome then s else runLines g fuel (idle && steps.isEmpty) s rest

/-- Runs a text as a part of a script. -/
def runText (g : Setting) (s : State) (script : Text) : State :=
  let ts := tokens script
  runLines g (ts.length + 1) true s ts

/-- How the shell is called: its options, whether the script is its first argument, and its arguments. -/
structure Invocation where
  flags : Text := []
  inline : Bool := false
  fromInput : Bool := false
  rest : List Text := []

/-- Reads the arguments of the shell. -/
def invocation : Invocation → List Text → Invocation
  | i, [] => i
  | i, arg :: args =>
    match arg with
    | ['-', 'o'] =>
      match args with
      | name :: args => invocation { i with flags := i.flags ++ (State.optionNames.lookup name).toList } args
      | [] => i
    | ['-'] => { i with rest := args }
    | ['-', '-'] => { i with rest := args }
    | '-' :: c :: r =>
      invocation { i with
        flags := i.flags ++ (c :: r).filter fun c => "euxfnavC".toList.contains c
        inline := i.inline || (c :: r).contains 'c'
        fromInput := i.fromInput || (c :: r).contains 's' } args
    | '+' :: _ :: _ => invocation i args
    | _ => { i with rest := arg :: args }

/-- What is told about a program that a signal has ended. -/
def signalMessage (n : Nat) : Text :=
  match n with
  | 1 => "Hangup\n".toList
  | 6 => "Aborted\n".toList
  | 9 => "Killed\n".toList
  | 11 => "Segmentation fault\n".toList
  | 14 => "Alarm clock\n".toList
  | 15 => "Terminated\n".toList
  | _ => []

/-- Runs a script in a shell of its own. -/
def sh (g : Setting) (s : State) (args : List Text) : State :=
  let i := invocation {} args
  let run (input : State) (name : Text) (arguments : List Text) (script : Text) : State :=
    let child : State :=
      { world := input.world, pools := input.pools, sources := input.sources, streams := input.streams
        millis := input.millis, values := input.environment, exported := input.environment.map Prod.fst
        runnable := input.runnable, name, arguments, flags := i.flags }
    let child := (child.setValue "PWD".toList (Path.ofLocation child.world.cwd).text).setValue "PPID".toList ['0']
    let done := g.finish (runText g child script)
    let back := s.resume { done with killed := false } g.limit
    if done.killed then back.emit 2 (Utf8.encode (signalMessage (done.status - 128))) else back
  let fromFile (file : Text) (arguments : List Text) : State :=
    match s.world.disk.read s.world.cwd ⟨file⟩ with
    | .ok bytes => run s file arguments (Utf8.decodeLenient bytes)
    | .error e => { s.emit 2 (Utf8.encode ("sh: 0: ".toList ++ cannot "open" file e ++ ['\n'])) with status := 2 }
  match i.inline, i.rest with
  | true, [] => { s.emit 2 (Utf8.encode "sh: 0: -c requires an argument\n".toList) with status := 2 }
  | true, script :: rest => run s (rest.head?.getD "sh".toList) (rest.drop 1) script
  | false, rest =>
    if i.fromInput || rest = [] then run (s.leave 0 []) "sh".toList rest (Utf8.decodeLenient (s.readable 0))
    else fromFile (rest.head?.getD []) (rest.drop 1)

/-- The setting of scripts, within which scripts may go `depth` levels deep. A script that goes deeper has no room
left and is stopped. -/
def setting (limit : Nat) : (depth : Nat) → Setting
  | 0 =>
    let stop (s : State) : State := { s with status := 139, ended := true, killed := true }
    { limit, inner := fun s _ => stop s, call := fun s _ => stop s, shell := fun s _ => stop s }
  | depth + 1 =>
    let below := setting limit depth
    { limit, inner := runText below, call := runCommand below, shell := sh below }

/-- The depth of scripts within scripts. -/
def maxDepth : Nat := 1000

/-- The variables that a script starts with. -/
def initialValues : List (Text × Text) :=
  [("HOME".toList, "/root".toList),
   ("PATH".toList, "/usr/local/sbin:/usr/local/bin:/usr/sbin:/usr/bin:/sbin:/bin".toList)]

/-- The shell as a program. -/
def shellProgram (limit : Nat) : Program := fun w args input =>
  let start : State := { world := w, sources := #[input], values := initialValues
                         exported := initialValues.map Prod.fst }
  let done := (setting limit maxDepth).shell start args
  { world := done.world, status := done.status, output := done.collected 0, errors := done.collected 1
    millis := done.millis }

/-- A program by name, if there is one. -/
def program? (limit : Nat) (name : Text) : Option Program :=
  if name = "sh".toList then some (shellProgram limit) else programs.lookup name

end Cleave.Shell
