import Cleave.Text.Basic

/-!
# Paths

A path is kept as it was written. Its components leave out empty parts and every `.` but a leading one.
Relative paths are turned into locations (lists of names below the root) without looking at any disk.

A path is a text, so its names are taken to be UTF-8. What happens to names of any bytes is told where a path is turned
into text, which loses what is no UTF-8 (`Specifier.relativeBytes`).
-/

namespace Cleave

/-- A path as written, with `/` between its parts. -/
structure Path where
  text : Text
  deriving DecidableEq, Inhabited, Repr

/-- A part of a path. -/
inductive Component
  | root
  | here
  | up
  | name (t : Text)
  deriving DecidableEq, Repr

/-- A place in a file tree: the names on the way down from the root. -/
abbrev Location := List Text

namespace Path

/-- A path from a string. -/
def ofString (s : String) : Path := ⟨s.toList⟩

/-- A path as a string. -/
def toString (p : Path) : String := String.ofList p.text

/-- A component with the positions where it starts and ends in the text. -/
structure Located where
  component : Component
  start : Nat
  stop : Nat

/-- The component of a part at position `start`, if it is one. -/
def locate? (start : Nat) (part : Text) : Option Located :=
  let located (c : Component) : Option Located := some ⟨c, start, start + part.length⟩
  if part = [] then none
  else if part = ['.'] then (if start = 0 then located .here else none)
  else if part = ['.', '.'] then located .up
  else located (.name part)

/-- The components of parts, the first of which starts at position `start`. -/
def locateFrom : (start : Nat) → List Text → List Located
  | _, [] => []
  | start, part :: r => (locate? start part).toList ++ locateFrom (start + part.length + 1) r

/-- Whether a path starts at the root. -/
def isAbsolute (p : Path) : Bool :=
  p.text.head? == some '/'

/-- The components of a path with their positions. -/
def located (p : Path) : List Located :=
  (if p.isAbsolute then [⟨.root, 0, 1⟩] else []) ++ locateFrom 0 (Text.pieces '/' p.text)

/-- The components of a path. -/
def components (p : Path) : List Component :=
  p.located.map Located.component

/-- The path without its last component. The root and the empty path have no parent. -/
def parent? (p : Path) : Option Path :=
  match p.located.reverse with
  | [] => none
  | last :: before =>
    if last.component = .root then none
    else some ⟨p.text.take ((before.head?.map Located.stop).getD 0)⟩

/-- The path and all paths it is below, innermost first; a relative path ends with the empty one. -/
def ancestors (p : Path) : List Path :=
  p :: (p.located.dropLast.reverse.map fun l => ⟨p.text.take l.stop⟩) ++
    if p.isAbsolute then [] else [⟨[]⟩]

/-- The last component, if it is a name. -/
def fileName? (p : Path) : Option Text :=
  match p.components.getLast? with
  | some (.name t) => some t
  | _ => none

/-- Adds a path below another; an absolute path replaces it. -/
def join (p q : Path) : Path :=
  if q.isAbsolute then q
  else if p.text = [] || p.text.getLast? = some '/' then ⟨p.text ++ q.text⟩
  else ⟨p.text ++ '/' :: q.text⟩

/-- Adds characters to the end of a path. -/
def append (p : Path) (s : String) : Path := ⟨p.text ++ s.toList⟩

/-- A name split before its last dot; a dot at its start does not count. -/
def splitName (name : Text) : Text × Option Text :=
  let after := (name.reverse.takeWhile (· != '.')).reverse
  let before := name.take (name.length - after.length - 1)
  if after.length = name.length || before = [] then (name, none) else (before, some after)

/-- The part of the last name after its last dot. -/
def extension? (p : Path) : Option Text :=
  p.fileName?.bind fun name => (splitName name).2

/-- The path up to the last dot of its last name. -/
def withoutExtension (p : Path) : Path :=
  match p.located.getLast? with
  | some ⟨.name t, start, _⟩ => ⟨p.text.take (start + (splitName t).1.length)⟩
  | _ => p

/-- Where a component leads from a location; `..` at the root stays at the root. -/
def follow (l : Location) : Component → Location
  | .root => []
  | .here => l
  | .up => l.dropLast
  | .name t => l ++ [t]

/-- The location that a path denotes, starting at `cwd` unless the path is absolute. -/
def locationFrom (cwd : Location) (p : Path) : Location :=
  p.components.foldl follow cwd

/-- The location that a path denotes; the empty path denotes none. -/
def resolve? (cwd : Location) (p : Path) : Option Location :=
  if p.text = [] then none else some (p.locationFrom cwd)

/-- The path of a location. -/
def ofLocation (l : Location) : Path := ⟨'/' :: Text.join ['/'] l⟩

/-- The path itself if it is absolute, else the path below `cwd`. -/
def below (cwd : Location) (p : Path) : Path :=
  if p.isAbsolute then p else (ofLocation cwd).join p

end Path

end Cleave
