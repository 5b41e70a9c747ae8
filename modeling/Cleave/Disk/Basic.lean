import Cleave.Path
import Cleave.Text.Utf8

/-!
# Disks

A disk is a tree of files, directories and links, kept as a list of the places that hold something. The root is
always a directory. A regular file may have several names; then the places that hold it are known by a common number,
and what is written to one of them is written to all.
-/

namespace Cleave

/-- What a place on a disk holds. -/
inductive Node
  | file (content : Bytes)
  | dir
  /-- A link to another path. -/
  | link (target : Path)
  /-- A device that gives nothing and swallows everything. -/
  | nullDevice
  deriving DecidableEq, Repr

/-- A tree of files. -/
structure Disk where
  nodes : List (Location × Node) := []
  /-- The places of the regular files that have several names, with a number for each file. -/
  shared : List (Location × Nat) := []
  deriving Repr

namespace Disk

/-- The names without one of them. A file that is left with one name is no longer among those with several. -/
def withoutName (shared : List (Location × Nat)) (l : Location) : List (Location × Nat) :=
  match shared.lookup l with
  | none => shared
  | some i =>
    let rest := shared.filter (·.1 ≠ l)
    if 2 ≤ (rest.filter (·.2 = i)).length then rest else rest.filter (·.2 ≠ i)

/-- What a place holds. -/
def get? (d : Disk) (l : Location) : Option Node :=
  if l = [] then some .dir else d.nodes.lookup l

/-- Puts something new in a place. -/
def set (d : Disk) (l : Location) (n : Node) : Disk where
  nodes := (l, n) :: d.nodes.filter (·.1 ≠ l)
  shared := withoutName d.shared l

/-- Empties a place. -/
def erase (d : Disk) (l : Location) : Disk where
  nodes := d.nodes.filter (·.1 ≠ l)
  shared := withoutName d.shared l

/-- Empties a place and all places below it. -/
def eraseTree (d : Disk) (l : Location) : Disk where
  nodes := d.nodes.filter fun e => !l.isPrefixOf e.1
  shared := ((d.shared.map Prod.fst).filter l.isPrefixOf).foldl withoutName d.shared

/-- Puts content into the regular file in a place, under all its names. -/
def refill (d : Disk) (l : Location) (content : Bytes) : Disk :=
  match d.shared.lookup l with
  | none => d.set l (.file content)
  | some i =>
    { d with nodes := d.nodes.map fun e => if d.shared.lookup e.1 = some i then (e.1, .file content) else e }

/-- Puts what is in one place, a regular file, in a second place as well, under the same number. -/
def addName (d : Disk) (l k : Location) (n : Node) : Disk :=
  let d := d.set k n
  match d.shared.lookup l with
  | some i => { d with shared := (k, i) :: d.shared }
  | none =>
    let fresh := (d.shared.map Prod.snd).foldl max 0 + 1
    { d with shared := (k, fresh) :: (l, fresh) :: d.shared }

/-- Whether two places are names of one file. -/
def sameFile (d : Disk) (l k : Location) : Bool :=
  l = k || ((d.shared.lookup l).isSome && d.shared.lookup l = d.shared.lookup k)

/-- The content of the regular file in a place. -/
def fileAt? (d : Disk) (l : Location) : Option Bytes :=
  match d.get? l with
  | some (.file content) => some content
  | _ => none

end Disk

/-- Why an access to a disk fails. -/
inductive DiskError
  | notFound
  | inputOutput
  | permissionDenied
  | busy
  | alreadyExists
  | notDirectory
  | isDirectory
  | noSpace
  | nameTooLong
  | tooManyLinks
  /-- A path that holds a NUL character. -/
  | nulInPath
  /-- Text is read from bytes that are no UTF-8. -/
  | notUtf8
  /-- The empty path has no absolute form. -/
  | emptyPath
  /-- Something other than a regular file is copied. -/
  | notRegular
  deriving DecidableEq, Repr

/-- The wording of a disk error. -/
def DiskError.message : DiskError → Text
  | notFound => "No such file or directory (os error 2)".toList
  | inputOutput => "Input/output error (os error 5)".toList
  | permissionDenied => "Permission denied (os error 13)".toList
  | busy => "Device or resource busy (os error 16)".toList
  | alreadyExists => "File exists (os error 17)".toList
  | notDirectory => "Not a directory (os error 20)".toList
  | isDirectory => "Is a directory (os error 21)".toList
  | noSpace => "No space left on device (os error 28)".toList
  | nameTooLong => "File name too long (os error 36)".toList
  | tooManyLinks => "Too many levels of symbolic links (os error 40)".toList
  | nulInPath => "file name contained an unexpected NUL byte".toList
  | notUtf8 => "stream did not contain valid UTF-8".toList
  | emptyPath => "cannot make an empty path absolute".toList
  | notRegular => "the source path is neither a regular file nor a symlink to a regular file".toList

end Cleave
