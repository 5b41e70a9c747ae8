import Cleave.Pattern.Basic
import Cleave.Shell.Process
import Cleave.Shell.Script

/-!
# States of scripts

A script at work has a world, variables, functions and streams. A stream leads to a place where output is collected,
to a file, or to a text that is read step by step; several streams may lead to the same one.
-/

namespace Cleave.Shell

/-- How a part of a script is left before its end. -/
inductive Leave
  /-- With the next round of a loop, counted from the inside. -/
  | round (loop : Nat)
  /-- With what comes after a loop, counted from the inside. -/
  | loop (loop : Nat)
  /-- With what comes after the call of a function. -/
  | call
  deriving DecidableEq, Repr

/-- What a stream leads to. -/
inductive Stream
  /-- Output that is collected, by number. -/
  | pool (n : Nat)
  /-- A text to read, by number. -/
  | source (n : Nat)
  | file (l : Location)
  deriving DecidableEq, Repr

/-- A script at work. -/
structure State where
  world : World
  status : Nat := 0
  /-- The status of the last script whose output is a part of a word of the command at work. -/
  outputStatus : Nat := 0
  /-- What has been collected, the last part of each first. -/
  pools : Array (List Bytes) := #[[], []]
  /-- What is still to be read. -/
  sources : Array Bytes := #[[]]
  streams : List (Nat × Stream) := [(0, .source 0), (1, .pool 0), (2, .pool 1)]
  /-- How long the script has run. -/
  millis : Nat := 0
  /-- Whether the script has ended. -/
  ended : Bool := false
  /-- Whether a signal has ended the script with all its parts. -/
  killed : Bool := false
  values : List (Text × Text) := []
  /-- Variables that programs see. -/
  exported : List Text := []
  /-- Variables that keep their value. -/
  locked : List Text := []
  /-- The values of local variables outside of the function at work. -/
  outer : List (Text × Option Text) := []
  functions : List (Text × Command) := []
  /-- Whether a function is at work. -/
  inCall : Bool := false
  /-- The name of the script. -/
  name : Text := "sh".toList
  arguments : List Text := []
  /-- The letters of the options that are set. -/
  flags : Text := []
  /-- Whether the status is looked at by a condition. -/
  guarded : Bool := false
  /-- The number of loops at work. -/
  loops : Nat := 0
  leaving : Option Leave := none
  /-- What is done on a signal, or at the end. -/
  traps : List (Text × Text) := []
  /-- The status of each command in the background and when it ends. -/
  jobs : List (Nat × Nat) := []
  /-- Files that may be run as programs. -/
  runnable : List Location := []

namespace State

/-- Options by their long names. -/
def optionNames : List (Text × Char) :=
  [("errexit".toList, 'e'), ("nounset".toList, 'u'), ("noglob".toList, 'f'), ("xtrace".toList, 'x'),
   ("noexec".toList, 'n'), ("verbose".toList, 'v'), ("allexport".toList, 'a'), ("noclobber".toList, 'C')]

/-- Whether an option is set. -/
def has (s : State) (flag : Char) : Bool :=
  s.flags.contains flag

/-- Sets an option or takes it back. -/
def setFlag (s : State) (on : Bool) (flag : Char) : State :=
  let flags := s.flags.filter (· != flag)
  { s with flags := if on then flags ++ [flag] else flags }

/-- The number of the script among the processes. -/
def ownNumber : Text := ['1']

/-- The number of the first command in the background. -/
def firstJob : Nat := 2

/-- The value of a variable or of a parameter of the script. -/
def value? (s : State) (name : Text) : Option Text :=
  match name with
  | ['?'] => some (Text.ofNat s.status)
  | ['$'] => some ownNumber
  | ['!'] => if s.jobs = [] then none else some (Text.ofNat (firstJob + s.jobs.length - 1))
  | ['#'] => some (Text.ofNat s.arguments.length)
  | ['-'] => some s.flags
  | ['0'] => some s.name
  | ['@'] => if s.arguments = [] then none else some (Text.join [' '] s.arguments)
  | ['*'] => if s.arguments = [] then none else some (Text.join [' '] s.arguments)
  | name =>
    if name.all Char.isDigit then (Pattern.number? name).bind fun n => s.arguments[n - 1]?
    else s.values.lookup name

/-- Sets a variable. -/
def setValue (s : State) (name value : Text) : State :=
  let exported := if s.has 'a' && !s.exported.contains name then name :: s.exported else s.exported
  { s with values := (name, value) :: s.values.filter (·.1 != name), exported }

/-- Takes the value of a variable away. -/
def unset (s : State) (name : Text) : State :=
  { s with values := s.values.filter (·.1 != name) }

/-- Gives a variable its former value. -/
def restore (s : State) (former : Text × Option Text) : State :=
  match former.2 with
  | some value => { s with values := (former.1, value) :: s.values.filter (·.1 != former.1) }
  | none => s.unset former.1

/-- The variables that programs see, by name. -/
def environment (s : State) : List (Text × Text) :=
  s.values.filter fun v => s.exported.contains v.1

/-- Sends bytes to a stream. -/
def send (s : State) (bytes : Bytes) : Stream → State
  | .pool n => { s with pools := s.pools.modify n fun chunks => if bytes = [] then chunks else bytes :: chunks }
  | .source _ => s
  | .file l =>
    if bytes = [] then s
    else
      let p := Path.ofLocation l
      let old := (s.world.disk.read [] p).toOption.getD []
      { s with world := ((Effect.writeFile p (old ++ bytes)).run s.world).2 }

/-- Prints bytes on a stream by its number. -/
def emit (s : State) (stream : Nat) (bytes : Bytes) : State :=
  match s.streams.lookup stream with
  | some target => s.send bytes target
  | none => s

/-- Prints text. -/
def print (s : State) (t : Text) : State :=
  s.emit 1 (Utf8.encode t)

/-- Adds a complaint and sets the status. -/
def complain (s : State) (status : Nat) (t : Text) : State :=
  { s.emit 2 (Utf8.encode (s.name ++ ": 1: ".toList ++ t ++ ['\n'])) with status }

/-- Complains and ends the script. -/
def abort (s : State) (status : Nat) (t : Text) : State :=
  { s.complain status t with ended := true }

/-- What a stream has to read. -/
def readable (s : State) (stream : Nat) : Bytes :=
  match s.streams.lookup stream with
  | some (.source n) => (s.sources[n]?).getD []
  | _ => []

/-- Leaves a part of what a stream has to read. -/
def leave (s : State) (stream : Nat) (rest : Bytes) : State :=
  match s.streams.lookup stream with
  | some (.source n) => { s with sources := s.sources.setIfInBounds n rest }
  | _ => s

/-- Makes a stream lead somewhere. -/
def connect (s : State) (stream : Nat) (target : Stream) : State :=
  { s with streams := (stream, target) :: s.streams.filter (·.1 != stream) }

/-- Makes a stream lead nowhere. -/
def disconnect (s : State) (stream : Nat) : State :=
  { s with streams := s.streams.filter (·.1 != stream) }

/-- Gives a stream something to read. -/
def feed (s : State) (stream : Nat) (bytes : Bytes) : State :=
  { s with sources := s.sources.push bytes }.connect stream (.source s.sources.size)

/-- Everything that a pool has collected. -/
def collected (s : State) (n : Nat) : Bytes :=
  ((s.pools[n]?).getD []).reverse.flatten

/-- Lets time pass. The script ends if its time is up. -/
def proceed (s : State) (limit millis : Nat) : State :=
  { s with millis, ended := s.ended || limit ≤ millis }

/-- Takes in what a program has left behind. -/
def absorb (s : State) (limit : Nat) (e : Ended) : State :=
  let s := { s with world := e.world, status := e.status }
  let s := if e.consumed then s.leave 0 [] else s
  ((s.emit 1 e.output).emit 2 e.errors).proceed limit (s.millis + e.millis)

/-- What a script within a script leaves behind: it changes files and prints, and time passes, but its variables
and its directory are its own. -/
def resume (s done : State) (limit : Nat) : State :=
  { s with
    world := { done.world with cwd := s.world.cwd }
    status := done.status
    pools := done.pools
    sources := done.sources
    millis := done.millis
    killed := done.killed
    runnable := done.runnable
    ended := s.ended || done.killed || limit ≤ done.millis }

/-- Runs something and collects what it prints. -/
def capture (s : State) (body : State → State) : State × Bytes :=
  let n := s.pools.size
  let done := body ({ s with pools := s.pools.push [] }.connect 1 (.pool n))
  ({ done with streams := s.streams, pools := done.pools.take n }, done.collected n)

end State

/-- What a script runs with. Texts, functions and scripts of their own run one level deeper. -/
structure Setting where
  /-- When the time of the script is up. -/
  limit : Nat
  /-- Runs a text as a part of the script. -/
  inner : State → Text → State
  /-- Runs the body of a function. -/
  call : State → Command → State
  /-- Runs a script of its own. -/
  shell : State → List Text → State

/-- The name of the end of a script among the signals. -/
def exitSignal : Text := "EXIT".toList

/-- What is done at the end of a script. -/
def Setting.finish (g : Setting) (s : State) : State :=
  match s.traps.lookup exitSignal with
  | some script =>
    if s.killed || script = [] then s
    else
      let after := g.inner { s with traps := [], ended := false, leaving := none } script
      { after with status := if after.ended then after.status else s.status, ended := true }
  | none => s

/-- Runs something that cannot end the script or change its directory and variables. -/
def Setting.enclosed (g : Setting) (s : State) (body : State → State) : State :=
  s.resume (g.finish (body { s with traps := [] })) g.limit

end Cleave.Shell
