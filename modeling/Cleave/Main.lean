import Cleave.Command.Clock
import Cleave.Command.Footprint
import Cleave.Shell.Checker
import Std.Time.Format

/-!
# Entry point

Takes in the directories that a command needs, runs the command on them, and carries out the changes it has made.
-/

namespace Cleave.Main

open Command

/-- Takes in one file or directory. -/
def loadEntry (d : Disk) (l : Location) : IO Disk := do
  let path := (← IO.currentDir) / (Path.ofLocation l).toString
  if ← path.isDir then return d.set l .dir
  if ← path.pathExists then
    try
      let bytes ← IO.FS.readBinFile path
      return d.set l (.file bytes.toList)
    catch _ => return d
  return d

/-- Takes in a directory with its entries and the directories above it. -/
def loadDir (d : Disk) (l : Location) : IO Disk := do
  let path := (← IO.currentDir) / (Path.ofLocation l).toString
  if !(← path.isDir) then return d
  let above := (List.range (l.length + 1)).map l.take
  let mut d := above.foldl (fun (d : Disk) l => if l = [] then d else d.set l .dir) d
  for entry in ← path.readDir do
    d ← loadEntry d (l ++ [entry.fileName.toList])
  return d

/-- Carries out changes: directories first, outermost before innermost, then files, each beside its place first. -/
def save (c : Changes) : IO Unit := do
  let name (l : Location) : String := (Path.ofLocation l).toString
  for l in c.dirs.mergeSort fun a b => a.length ≤ b.length do
    IO.FS.createDirAll (name l)
  for (l, bytes) in c.files do
    let temp := name l ++ ".tmp"
    IO.FS.writeBinFile temp ⟨bytes.toArray⟩
    IO.FS.rename temp (name l)
  for l in c.removed do
    IO.FS.removeFile (name l)

/-- Runs the program with the given arguments. -/
def run (args : List Text) : IO UInt32 := do
  let cwd := (Path.ofString (← IO.currentDir).toString).locationFrom []
  let home := Path.ofString ((← IO.getEnv "HOME").getD "/")
  let config := (← IO.getEnv "PARTITION_CONFIG").map String.toList
  let mut disk : Disk := {}
  for p in (Invocation.parse args config).directories cwd home do
    disk ← loadDir disk (p.locationFrom cwd)
  let now := (← Std.Time.Timestamp.now).toNanosecondsSinceUnixEpoch.val.toNat
  let env : Environment := { home, config, now := timeText now, checker := Shell.check }
  let done := Command.run env args { disk, cwd }
  save (changes disk done.world.disk)
  (← IO.getStdout).putStr (String.ofList done.out)
  (← IO.getStderr).putStr (String.ofList done.err)
  return done.status.toUInt32

end Cleave.Main

/-- Runs the program. -/
def main (args : List String) : IO UInt32 :=
  Cleave.Main.run (args.map String.toList)
