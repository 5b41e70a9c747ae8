import Cleave.Check.Outcome
import Cleave.Path
import Cleave.Pattern.Basic

/-!
# Check commands

A check is a command with a time limit. Output lines that match a pattern count as diagnostics; without a
pattern a failing command counts as one.
-/

namespace Cleave

/-- Why a check command is not accepted. -/
inductive CheckError
  | emptyCommand
  | invalidPattern (pattern : Text) (why : Text)
  deriving Repr

/-- The wording of a check error. -/
def CheckError.message : CheckError → Text
  | emptyCommand => "Check command is empty".toList
  | invalidPattern pattern why => "Invalid diagnostic pattern '".toList ++ pattern ++ "': ".toList ++ why

/-- A command that checks a source tree. -/
structure CheckCommand where
  program : Text
  arguments : List Text
  timeoutMillis : Nat
  /-- Pattern of the output lines that count as diagnostics. -/
  diagnostic : Option Pattern
  workingDir : Option Path

/-- What a command that ran to its end has left behind. -/
structure Finished where
  succeeded : Bool
  output : Text
  errors : Text
  deriving DecidableEq, Repr

namespace CheckCommand

/-- Reads the pattern of diagnostics, if there is one. -/
def compilePattern? : Option Text → Except CheckError (Option Pattern)
  | none => .ok none
  | some source =>
    match Pattern.read false source with
    | .ok p => .ok (some p)
    | .error why => .error (.invalidPattern source why)

/-- Reads a check command: its first word is the program, which must not be blank. -/
def compile (words : List Text) (timeoutMillis : Nat) (pattern : Option Text) (workingDir : Option Path) :
    Except CheckError CheckCommand :=
  match words with
  | [] => .error .emptyCommand
  | program :: arguments =>
    if Text.isBlank program then .error .emptyCommand
    else
      match compilePattern? pattern with
      | .ok diagnostic => .ok { program, arguments, timeoutMillis, diagnostic, workingDir }
      | .error e => .error e

/-- The command as it is typed. -/
def display (c : CheckCommand) : Text :=
  Text.join [' '] (c.program :: c.arguments)

/-- The number of diagnostics of a finished command. Both streams are read as one text. -/
def countDiagnostics (c : CheckCommand) (f : Finished) : Nat :=
  match c.diagnostic with
  | some p => ((Text.shownLines (f.output ++ f.errors)).filter p.occursIn).length
  | none => if f.succeeded then 0 else 1

/-- The outcome of a finished command. -/
def outcome (c : CheckCommand) (f : Finished) : CheckOutcome :=
  if f.succeeded then .passed (c.countDiagnostics f) else .failed (c.countDiagnostics f)

/-- A number of milliseconds in seconds, with as few decimals as it needs. -/
def seconds (millis : Nat) : Text :=
  let thousandths := Text.ofNat (1000 + millis % 1000)
  let decimals := Text.trimEndOf (· == '0') (thousandths.drop 1)
  Text.ofNat (millis / 1000) ++ if decimals = [] then [] else '.' :: decimals

/-- The outcome of a command that did not end in time. -/
def timedOut (c : CheckCommand) : CheckOutcome :=
  .unknown ("timed out after ".toList ++ seconds c.timeoutMillis ++ "s".toList)

/-- The outcome of a command that could not be started. -/
def notLaunched (c : CheckCommand) (reason : Text) : CheckOutcome :=
  .unknown ("failed to launch '".toList ++ c.program ++ "': ".toList ++ reason)

end CheckCommand

end Cleave
