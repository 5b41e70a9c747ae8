import Cleave.Run
import Cleave.Shell.Interpreter

/-!
# Running checks

The command of a check is started in its directory and then looked after at fixed intervals, until it ends or its
time is up.
-/

namespace Cleave.Shell

/-- How long it takes from one look at a running command to the next. -/
def interval : Nat := 50

/-- A command that has not ended after this time is not waited for: the first look at which its time is up. -/
def patience (timeoutMillis : Nat) : Nat :=
  (timeoutMillis + interval - 1) / interval * interval

/-- The program that a command names: by its bare name, or by the path of its file. -/
def find (limit : Nat) (w : World) (name : Text) : Except DiskError Program :=
  if name.contains '/' then
    let l := (Path.mk name).locationFrom w.cwd
    match if programDirs.contains l.dropLast then program? limit (l.getLast?.getD []) else none with
    | some p => .ok p
    | none =>
      match w.disk.stat w.cwd ⟨name⟩ with
      | .ok _ => .error .permissionDenied
      | .error e => .error e
  else
    match program? limit name with
    | some p => .ok p
    | none => .error .notFound

/-- The directory that a path leads to. -/
def directory (w : World) (p : Path) : Except DiskError Location := do
  let l ← w.disk.place w.cwd p
  match w.disk.get? l with
  | some .dir => return l
  | some _ => throw .notDirectory
  | none => throw .notFound

/-- Whether a text cannot be passed to a program. -/
def holdsNul (t : Text) : Bool :=
  t.contains '\x00'

/-- Starts a command and waits for it. -/
def check : Checker := fun c dir => do
  let w ← get
  let dir := c.workingDir.getD dir
  if (dir.text :: c.program :: c.arguments).any holdsNul then
    return c.notLaunched "nul byte found in provided data".toList
  let limit := patience c.timeoutMillis
  match directory w dir with
  | .error e => return c.notLaunched e.message
  | .ok l =>
    match find limit { w with cwd := l } c.program with
    | .error e => return c.notLaunched e.message
    | .ok run =>
      let done := run { w with cwd := l } c.arguments []
      set { done.world with cwd := w.cwd }
      if limit ≤ done.millis then return c.timedOut
      else
        return c.outcome
          { succeeded := done.status = 0
            output := Utf8.decodeLenient done.output
            errors := Utf8.decodeLenient done.errors }

end Cleave.Shell
