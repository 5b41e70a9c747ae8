import Cleave.Disk.Walk

/-!
# Worlds

A world is a disk with a current directory. Every access may fail for reasons outside of the disk: a world holds
a list of faults that strike one access after the other. A write that is struck may leave the beginning of its
content behind.
-/

namespace Cleave

/-- A failure that strikes an access. -/
structure Fault where
  error : DiskError
  /-- The number of bytes that a write leaves behind; without it nothing is touched. -/
  kept : Option Nat := none
  deriving DecidableEq, Repr

/-- A disk, a current directory, and what strikes the next accesses. -/
structure World where
  disk : Disk
  cwd : Location := []
  faults : List (Option Fault) := []

/-- A computation on a world that may fail. -/
abbrev Effect (ε α : Type) := ExceptT ε (StateM World) α

namespace Effect

variable {ε ε' α : Type}

/-- The result of an action as a value. -/
def result (a : Effect ε α) : Effect ε' (Except ε α) :=
  ExceptT.lift a.run

/-- The same action with another kind of error. -/
def adapt (f : ε → ε') (a : Effect ε α) : Effect ε' α :=
  ExceptT.adapt f a

/-- An action that only looks at the world. -/
def inspect (f : World → Except ε α) : Effect ε α :=
  ExceptT.mk fun w => (f w, w)

/-- One access to the disk. If a fault strikes it, `torn` gives the disk that it leaves behind. -/
def access (run : World → Except DiskError (α × Disk)) (torn : Nat → World → Disk) : Effect DiskError α :=
  ExceptT.mk fun w =>
    match w.faults with
    | some fault :: faults =>
      (.error fault.error, { w with faults, disk := (fault.kept.map (torn · w)).getD w.disk })
    | faults =>
      match run w with
      | .ok (a, disk) => (.ok a, { w with faults := faults.drop 1, disk })
      | .error e => (.error e, { w with faults := faults.drop 1 })

/-- An access that changes nothing. -/
def look (run : World → Except DiskError α) : Effect DiskError α :=
  access (fun w => (run w).map (·, w.disk)) fun _ w => w.disk

/-- An access that changes the disk or leaves it alone. -/
def change (run : World → Except DiskError Disk) : Effect DiskError Unit :=
  access (fun w => (run w).map ((), ·)) fun _ w => w.disk

/-- An access that writes content. -/
def changeBy (content : Bytes) (run : Bytes → World → Except DiskError Disk) : Effect DiskError Unit :=
  access (fun w => (run content w).map ((), ·)) fun n w =>
    match run (content.take n) w with
    | .ok disk => disk
    | .error _ => w.disk

/-- Reads a file. -/
def readFile (p : Path) : Effect DiskError Bytes :=
  look fun w => w.disk.read w.cwd p

/-- Reads a file as text. -/
def readText (p : Path) : Effect DiskError Text := do
  match Utf8.decode? (← readFile p) with
  | some t => return t
  | none => throw .notUtf8

/-- Writes a file. -/
def writeFile (p : Path) (content : Bytes) : Effect DiskError Unit :=
  changeBy content fun content w => w.disk.write w.cwd p content

/-- Copies a file. -/
def copyFile (p q : Path) : Effect DiskError Unit :=
  ExceptT.mk fun w =>
    match w.disk.stat w.cwd p with
    | .ok (.file content) => changeBy content (fun content w => w.disk.write w.cwd q content) w
    | _ => change (fun w => w.disk.copy w.cwd p q) w

/-- Renames a file. -/
def rename (p q : Path) : Effect DiskError Unit :=
  change fun w => w.disk.rename w.cwd p q

/-- Removes a file. -/
def removeFile (p : Path) : Effect DiskError Unit :=
  change fun w => w.disk.remove w.cwd p

/-- Makes a directory. -/
def makeDir (p : Path) : Effect DiskError Unit :=
  change fun w => w.disk.makeDir w.cwd p

/-- Whether a path leads to something that satisfies `p`; if it cannot be found out, it does not. -/
def query (test : Node → Bool) (p : Path) : Effect ε Bool := do
  match ← result (look fun w => w.disk.stat w.cwd p) with
  | .ok n => return test n
  | .error _ => return false

/-- Whether a path leads to something. -/
def present (p : Path) : Effect ε Bool :=
  query (fun _ => true) p

/-- Whether a path leads to a regular file. -/
def isFile (p : Path) : Effect ε Bool :=
  query (fun n => n matches .file _) p

/-- Whether a path leads to a directory. -/
def isDir (p : Path) : Effect ε Bool :=
  query (· == .dir) p

/-- Makes a directory unless it is there. -/
def ensureDir (p : Path) : Effect DiskError Unit := do
  match ← result (makeDir p) with
  | .ok _ => return
  | .error e => if !(← isDir p) then throw e

/-- Makes the first of some directories, innermost first, and those above it that are missing. -/
def ensureDirs : List Path → Effect DiskError Unit
  | [] => pure ()
  | p :: above => do
    if p.text = [] then return
    match ← result (makeDir p) with
    | .ok _ => return
    | .error .notFound => do
      ensureDirs above
      ensureDir p
    | .error e => if !(← isDir p) then throw e

end Effect

end Cleave
