import Cleave.Disk.World

/-!
# Processes

What a program that runs to its end leaves behind, and the accesses to the disk that programs make.
-/

namespace Cleave.Shell

/-- What a program has left behind. -/
structure Ended where
  world : World
  status : Nat := 0
  output : Bytes := []
  errors : Bytes := []
  /-- How long it ran. -/
  millis : Nat := 0
  /-- Whether it has read its input to the end. -/
  consumed : Bool := false

namespace Ended

/-- A program that ended with a status. -/
def withStatus (world : World) (status : Nat) : Ended := { world, status }

/-- A program that printed something and succeeded. -/
def printed (world : World) (t : Text) : Ended := { world, output := Utf8.encode t }

/-- A program that complained. -/
def complained (world : World) (status : Nat) (t : Text) : Ended :=
  { world, status, errors := Utf8.encode (t ++ ['\n']) }

/-- A program that was called in a wrong way. -/
def misused (world : World) (status : Nat) (name : String) (t : Text) : Ended :=
  complained world status (name.toList ++ ": ".toList ++ t ++ "\nTry '".toList ++ name.toList ++
    " --help' for more information.".toList)

/-- One program after another; the status is the larger one. -/
def andThen (first : Ended) (next : World → Ended) : Ended :=
  let second := next first.world
  { world := second.world
    status := max first.status second.status
    output := first.output ++ second.output
    errors := first.errors ++ second.errors
    millis := first.millis + second.millis
    consumed := first.consumed || second.consumed }

end Ended

/-- The wording of a disk error without its number. -/
def shortMessage (e : DiskError) : Text :=
  match Text.pieces '(' e.message with
  | first :: _ => Text.trim first
  | [] => []

/-- Runs an action, whose failure is reported under the name of the program. -/
def perform (name : String) (w : World) (what : Text) (a : Effect DiskError Unit) : Ended :=
  match a.run w with
  | (.ok _, w) => { world := w }
  | (.error e, w) => .complained w 1 (name.toList ++ ": ".toList ++ what ++ ": ".toList ++ shortMessage e)

/-- Runs a program for each of its arguments. -/
def forEach (w : World) (args : List Text) (run : World → Text → Ended) : Ended :=
  args.foldl (fun (e : Ended) arg => e.andThen (run · arg)) { world := w }

end Cleave.Shell
