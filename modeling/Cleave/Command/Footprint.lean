import Cleave.Command.Program

/-!
# Footprints

The directories that a command looks at and writes to. A world that holds these directories is all that the
command needs.
-/

namespace Cleave.Command

/-- The directory that holds a path. -/
def holderOf (p : Path) : Path :=
  match p.parent? with
  | some q => if q.text = [] then ⟨['.']⟩ else q
  | none => ⟨['.']⟩

/-- The directories that a request names. -/
def Request.directories : Request → List Path
  | .split r => [holderOf r.source, r.outDir]
  | .scan source => [holderOf source]
  | .classify _ => []
  | .restore source => [holderOf source]
  | .init dir _ => [dir]
  | .profiles => []

/-- The directories that an invocation needs, seen from the current directory. -/
def Invocation.directories (cwd : Location) (home : Path) : Invocation → List Path
  | .run common request =>
    holderOf (Settings.userPath home) :: (Path.ofLocation cwd).ancestors ++
      (common.config.map holderOf).toList ++ request.directories
  | _ => []

/-- What has to be done to a disk to make it like another. -/
structure Changes where
  dirs : List Location
  files : List (Location × Bytes)
  removed : List Location

/-- The changes between two disks. -/
def changes (old new : Disk) : Changes where
  dirs := new.nodes.filterMap fun (l, n) => if n = .dir ∧ old.get? l ≠ some .dir then some l else none
  files := new.nodes.filterMap fun (l, n) => match n with
    | .file content => if old.fileAt? l = some content then none else some (l, content)
    | _ => none
  removed := old.nodes.filterMap fun (l, _) => if (new.get? l).isNone then some l else none

end Cleave.Command
