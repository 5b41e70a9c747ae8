import Cleave.Disk.Basic

/-!
# Following paths

A path is followed part by part from a directory. Every part but the last must lead to a directory, links are
replaced by where they lead, and `.` and empty parts stay where they are.
-/

namespace Cleave

namespace Disk

/-- The longest name, in bytes. -/
def maxName : Nat := 255

/-- The longest path, in bytes. -/
def maxPath : Nat := 4095

/-- The number of links that are followed on one way. -/
def maxLinks : Nat := 40

/-- A part that stays in the same directory. -/
def isStay (part : Text) : Bool :=
  part = [] || part = ['.']

/-- Where a path starts. -/
def startOf (dir : Location) (p : Path) : Location :=
  if p.isAbsolute then [] else dir

/-- Follows parts from a directory. A link leads to the parts of its target, which `enter` follows; the last part
is only followed through a link if `follow` says so. -/
def walkParts (d : Disk) (follow : Bool) (enter : Location → List Text → Except DiskError Location) :
    Location → List Text → Except DiskError Location
  | dir, [] => .ok dir
  | dir, part :: rest =>
    if isStay part then walkParts d follow enter dir rest
    else if part = ['.', '.'] then walkParts d follow enter dir.dropLast rest
    else if maxName < Text.byteLength part then .error .nameTooLong
    else
      let place := dir ++ [part]
      match d.get? place with
      | some (.link target) =>
        if rest = [] && !follow then .ok place
        else if target.text = [] then .error .notFound
        else enter (startOf dir target) (Text.pieces '/' target.text ++ rest)
      | some .dir => walkParts d follow enter place rest
      | some _ => if rest = [] then .ok place else .error .notDirectory
      | none => if rest = [] then .ok place else .error .notFound

/-- Follows parts from a directory through at most `links` links. -/
def walk (d : Disk) (follow : Bool) : (links : Nat) → Location → List Text → Except DiskError Location
  | 0 => walkParts d follow fun _ _ => .error .tooManyLinks
  | links + 1 => walkParts d follow (walk d follow links)

/-- What makes a path unfit before it is followed. -/
def pathFault? (p : Path) : Option DiskError :=
  if p.text.contains '\x00' then some .nulInPath
  else if p.text = [] then some .notFound
  else if maxPath < Text.byteLength p.text then some .nameTooLong
  else none

/-- The place that a path leads to, which may be empty. -/
def place (d : Disk) (cwd : Location) (p : Path) : Except DiskError Location :=
  match pathFault? p with
  | some e => .error e
  | none => d.walk true maxLinks (startOf cwd p) (Text.pieces '/' p.text)

/-- The last part of a path. -/
inductive Last
  | name (t : Text) (slash : Bool)
  /-- The root, `.` or `..`. -/
  | special

/-- The parts of a path before the last one, and the last one. -/
def splitLast (p : Path) : List Text × Last :=
  let parts := Text.pieces '/' p.text
  let slashes := (parts.reverse.takeWhile (· = [])).length
  match (parts.take (parts.length - slashes)).reverse with
  | [] => ([], .special)
  | last :: before =>
    if last = ['.'] || last = ['.', '.'] then (before.reverse, .special)
    else (before.reverse, .name last (slashes != 0))

/-- The directory that holds the last part of a path, and that part. -/
def holder (d : Disk) (cwd : Location) (p : Path) : Except DiskError (Location × Last) :=
  match pathFault? p with
  | some e => .error e
  | none =>
    let (before, last) := splitLast p
    match d.walk true maxLinks (startOf cwd p) (before ++ [[]]) with
    | .ok dir => .ok (dir, last)
    | .error e => .error e

/-- What a path leads to. -/
def stat (d : Disk) (cwd : Location) (p : Path) : Except DiskError Node :=
  match d.place cwd p with
  | .error e => .error e
  | .ok l =>
    match d.get? l with
    | some n => .ok n
    | none => .error .notFound

/-- The content of a file. -/
def read (d : Disk) (cwd : Location) (p : Path) : Except DiskError Bytes :=
  match d.stat cwd p with
  | .error e => .error e
  | .ok (.file content) => .ok content
  | .ok .nullDevice => .ok []
  | .ok _ => .error .isDirectory

/-- Puts content into a place: a new file, an old one, or the null device. -/
def store (d : Disk) (l : Location) (content : Bytes) : Except DiskError Disk :=
  match d.get? l with
  | some .dir => .error .isDirectory
  | some .nullDevice => .ok d
  | some (.file _) => .ok (d.refill l content)
  | _ => .ok (d.set l (.file content))

/-- The place of a file that is written to a path. A link at the end is followed, also one that leads to no file
yet; what can only name a directory is refused. -/
def filePlace (d : Disk) : (links : Nat) → Location → Path → Except DiskError Location
  | links, cwd, p =>
    match d.holder cwd p with
    | .error e => .error e
    | .ok (_, .special) => .error .isDirectory
    | .ok (_, .name _ true) => .error .isDirectory
    | .ok (dir, .name t false) =>
      if maxName < Text.byteLength t then .error .nameTooLong
      else
        match d.get? (dir ++ [t]), links with
        | some (.link _), 0 => .error .tooManyLinks
        | some (.link target), links + 1 => filePlace d links dir target
        | _, _ => .ok (dir ++ [t])

/-- Writes a file, which is made if it is missing. -/
def write (d : Disk) (cwd : Location) (p : Path) (content : Bytes) : Except DiskError Disk :=
  match d.filePlace maxLinks cwd p with
  | .error e => .error e
  | .ok l => d.store l content

/-- Copies a regular file. -/
def copy (d : Disk) (cwd : Location) (p q : Path) : Except DiskError Disk :=
  match d.stat cwd p with
  | .error e => .error e
  | .ok (.file content) => d.write cwd q content
  | .ok _ => .error .notRegular

/-- Makes a directory. Whatever is in its place already is in the way. -/
def makeDir (d : Disk) (cwd : Location) (p : Path) : Except DiskError Disk :=
  match d.holder cwd p with
  | .error e => .error e
  | .ok (_, .special) => .error .alreadyExists
  | .ok (dir, .name t _) =>
    if maxName < Text.byteLength t then .error .nameTooLong
    else
      match d.get? (dir ++ [t]) with
      | some _ => .error .alreadyExists
      | none => .ok (d.set (dir ++ [t]) .dir)

/-- Removes a file or a link. -/
def remove (d : Disk) (cwd : Location) (p : Path) : Except DiskError Disk :=
  match d.holder cwd p with
  | .error e => .error e
  | .ok (_, .special) => .error .isDirectory
  | .ok (dir, .name t slash) =>
    if maxName < Text.byteLength t then .error .nameTooLong
    else
      match d.get? (dir ++ [t]) with
      | none => .error .notFound
      | some .dir => .error .isDirectory
      | some _ => if slash then .error .notDirectory else .ok (d.erase (dir ++ [t]))

/-- Puts what is in one place in another instead. A file with several names keeps the others. -/
def relocate (d : Disk) (source target : Location) (n : Node) : Disk :=
  let moved := (d.erase source).set target n
  match d.shared.lookup source with
  | none => moved
  | some i =>
    { moved with shared := (target, i) :: (withoutName d.shared target).filter (·.1 ≠ source) }

/-- Moves what is in one place to another, in place of a file or link there. Directories are not moved, and nothing is
moved between two names of one file. -/
def move (d : Disk) (source target : Location) (slash : Bool) : Except DiskError Disk :=
  match d.get? source with
  | none => .error .notFound
  | some .dir => .error .isDirectory
  | some n =>
    if slash then .error .notDirectory
    else if d.sameFile source target then .ok d
    else if d.get? target = some .dir then .error .isDirectory
    else .ok (d.relocate source target n)

/-- Renames a file or a link, without following links at either end. -/
def rename (d : Disk) (cwd : Location) (p q : Path) : Except DiskError Disk :=
  match d.holder cwd p, d.holder cwd q with
  | .error e, _ => .error e
  | _, .error e => .error e
  | .ok (dir, .name t slash), .ok (dir', .name t' slash') =>
    if maxName < Text.byteLength t || maxName < Text.byteLength t' then .error .nameTooLong
    else d.move (dir ++ [t]) (dir' ++ [t']) (slash || slash')
  | _, _ => .error .busy

end Disk

end Cleave
