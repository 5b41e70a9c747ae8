import Cleave.Path

/-!
# Documents

A document is a source file cut into lines that keep their terminators. Spans and residues are runs of its
lines; a generated file is a piece of output with the path it is meant for.
-/

namespace Cleave

/-- A source file, cut into lines. -/
structure Document where
  path : Path
  lines : List Text
  deriving Repr

namespace Document

/-- The document of a text. -/
def ofText (path : Path) (text : Text) : Document :=
  { path, lines := Text.lines text }

/-- The last name of the path, or the whole path if it does not end with a name. -/
def fileName (d : Document) : Text :=
  d.path.fileName?.getD d.path.text

/-- The full text. -/
def text (d : Document) : Text :=
  d.lines.flatten

/-- The text of lines `start … stop - 1`, as far as there are such lines. -/
def slice (d : Document) (start stop : Nat) : Text :=
  ((d.lines.take stop).drop start).flatten

/-- Length in bytes. -/
def byteLength (d : Document) : Nat :=
  total (d.lines.map Text.byteLength)

end Document

/-- A declaration: its name, its first and last line (counted from 0), and their text. -/
structure Span where
  name : Text
  first : Nat
  last : Nat
  text : Text
  deriving DecidableEq, Repr

/-- The span of lines `first … last` of a document. -/
def Document.span (d : Document) (name : Text) (first last : Nat) : Span :=
  { name, first, last, text := d.slice first (last + 1) }

/-- The number of lines of a span. -/
def Span.lineCount (s : Span) : Nat :=
  s.last - s.first + 1

/-- Lines that belong to no other part of a scanned document. -/
structure Residue where
  first : Nat
  text : Text
  deriving DecidableEq, Repr

/-- A residue that only separates other parts. -/
def Residue.isBlank (r : Residue) : Bool :=
  Text.isBlank r.text

/-- A piece of output, with a path relative to where it is written. -/
structure GeneratedFile where
  path : Path
  content : Text
  deriving DecidableEq, Repr

namespace GeneratedFile

/-- The number of lines of the content. -/
def lineCount (f : GeneratedFile) : Nat :=
  (Text.lines f.content).length

/-- Path and size as shown to a reader. -/
def display (f : GeneratedFile) : Text :=
  f.path.text ++ " (".toList ++ Text.ofNat f.lineCount ++ " lines)".toList

end GeneratedFile

end Cleave
