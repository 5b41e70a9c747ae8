import Cleave.Path
import Cleave.Text.Utf8

/-!
# Module specifiers

How one file refers to another by path: relative to the directory of the first, without the extension of the
second, and marked as relative by a leading `./` or `..`. A specifier is text. Names that are text stand in it as they
are. Names of any bytes stand in it as they are shown (`relativeBytes`), and different names can be shown alike.
-/

namespace Cleave.Specifier

/-- The parts of a path with `.` dropped and `..` folded against a part before it. The root is a part of its
own, written `/`. Every name is taken as it is shown. -/
def fold (shown : Text → Text) (parts : List Text) : Component → List Text
  | .here => parts
  | .up =>
    match parts.getLast? with
    | some last => if last = ['.', '.'] then parts ++ [['.', '.']] else parts.dropLast
    | none => [['.', '.']]
  | .root => parts ++ [['/']]
  | .name t => parts ++ [shown t]

/-- The folded parts of a path, with names as they are shown. -/
def partsBy (shown : Text → Text) (p : Path) : List Text :=
  p.components.foldl (fold shown) []

/-- The folded parts of a path. -/
def parts (p : Path) : List Text :=
  partsBy id p

/-- The length of the longest common start of two lists. -/
def commonLength : List Text → List Text → Nat
  | a :: as, b :: bs => if a = b then commonLength as bs + 1 else 0
  | _, _ => 0

/-- The way from one list of parts to another: up to the common start, then down. -/
def route (source target : List Text) : List Text :=
  let n := commonLength source target
  List.replicate (source.length - n) ['.', '.'] ++ target.drop n

/-- A way as text. -/
def spell (way : List Text) : Text :=
  let joined := Text.join ['/'] way
  if ['.', '.'].isPrefixOf joined then joined else "./".toList ++ joined

/-- The specifier of a file as seen from a directory. -/
def relative (dir target : Path) : Text :=
  spell (route (parts dir) (parts target.withoutExtension))

/-! ## Names of bytes -/

/-- A text of bytes, with a character for each of them. -/
def byteText (bs : Bytes) : Text :=
  bs.map fun b => Char.ofNat b.toNat

/-- What a name of bytes is shown as: a replacement character stands for what is no UTF-8. -/
def shown (name : Text) : Text :=
  Utf8.decodeLenient (name.map fun c => UInt8.ofNat c.toNat)

/-- The specifier of a file as seen from a directory, where paths are bytes. -/
def relativeBytes (dir target : Bytes) : Text :=
  spell (route (partsBy shown ⟨byteText dir⟩) (partsBy shown (Path.mk (byteText target)).withoutExtension))

end Cleave.Specifier
