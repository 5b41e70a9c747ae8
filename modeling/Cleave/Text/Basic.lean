import Cleave.Total

/-!
# Text

Source text is a list of characters, so that cutting and joining are list operations and proofs go by
induction. Lines keep their own terminator: joining any run of lines gives back the characters it was
cut from.
-/

namespace Cleave

/-- A piece of source text. -/
abbrev Text := List Char

namespace Text

/-- Length in bytes of the UTF-8 form. -/
def byteLength (t : Text) : Nat :=
  total (t.map Char.utf8Size)

/-- Cuts a text after every line feed. No line is empty, and only the last may lack its line feed. -/
def lines : Text → List Text
  | [] => []
  | c :: r =>
    if c = '\n' then [c] :: lines r
    else
      match lines r with
      | [] => [[c]]
      | l :: ls => (c :: l) :: ls

/-- Removes one line feed at the end, and then one carriage return before it. -/
def chomp (line : Text) : Text :=
  match line.reverse with
  | '\n' :: '\r' :: r => r.reverse
  | '\n' :: r => r.reverse
  | _ => line

/-- Lines as they are shown, without their terminators. -/
def shownLines (t : Text) : List Text :=
  (lines t).map chomp

/-- Drops the longest run at the start whose characters satisfy `p`. -/
def trimStartOf (p : Char → Bool) (t : Text) : Text :=
  t.dropWhile p

/-- Drops the longest run at the end whose characters satisfy `p`. -/
def trimEndOf (p : Char → Bool) (t : Text) : Text :=
  (t.reverse.dropWhile p).reverse

/-- Drops the longest runs at both ends whose characters satisfy `p`. -/
def trimOf (p : Char → Bool) (t : Text) : Text :=
  trimEndOf p (trimStartOf p t)

/-- A character of a line terminator. -/
def isTerminator (c : Char) : Bool :=
  c == '\n' || c == '\r'

/-- White space in the sense of the Unicode property `White_Space`. -/
def isBlankChar (c : Char) : Bool :=
  let n := c.toNat
  (9 ≤ n && n ≤ 13) || n == 0x20 || n == 0x85 || n == 0xA0 || n == 0x1680 ||
    (0x2000 ≤ n && n ≤ 0x200A) || n == 0x2028 || n == 0x2029 || n == 0x202F ||
    n == 0x205F || n == 0x3000

/-- Removes white space at both ends. -/
def trim (t : Text) : Text :=
  trimOf isBlankChar t

/-- A text that holds nothing but white space. -/
def isBlank (t : Text) : Bool :=
  t.all isBlankChar

/-- Whether `needle` occurs somewhere in a text. -/
def occursIn (needle : Text) : Text → Bool
  | [] => needle.isEmpty
  | c :: r => needle.isPrefixOf (c :: r) || occursIn needle r

/-- The rest of a text after `start`, if the text begins with it. -/
def dropStart? : (start : Text) → Text → Option Text
  | [], t => some t
  | _ :: _, [] => none
  | s :: start, c :: r => if s = c then dropStart? start r else none

/-- Replacement from left to right; `skip` characters still belong to the occurrence just replaced. -/
def replaceFrom (needle fresh : Text) : (skip : Nat) → Text → Text
  | _, [] => []
  | skip + 1, _ :: r => replaceFrom needle fresh skip r
  | 0, c :: r =>
    if needle.isPrefixOf (c :: r) then fresh ++ replaceFrom needle fresh (needle.length - 1) r
    else c :: replaceFrom needle fresh 0 r

/-- Replaces every occurrence of a non-empty `needle`, from left to right and without overlap. -/
def replace (needle fresh t : Text) : Text :=
  replaceFrom needle fresh 0 t

/-- The pieces between separators, empty ones included. -/
def pieces (sep : Char) : Text → List Text
  | [] => [[]]
  | c :: r =>
    if c = sep then [] :: pieces sep r
    else
      match pieces sep r with
      | [] => [[c]]
      | p :: ps => (c :: p) :: ps

/-- Joins pieces with a separator between neighbours. -/
def join (sep : Text) : List Text → Text
  | [] => []
  | [t] => t
  | t :: ts => t ++ sep ++ join sep ts

/-- The text, with a line feed added if it does not end with one. -/
def terminated (t : Text) : Text :=
  if t.getLast? = some '\n' then t else t ++ ['\n']

/-- The text padded with spaces on the right to at least `width` characters. -/
def padRight (width : Nat) (t : Text) : Text :=
  t ++ List.replicate (width - t.length) ' '

/-- Puts `indent` before every line that is not blank. -/
def indented (indent t : Text) : Text :=
  (lines t).flatMap fun line => if isBlank line then line else indent ++ line

/-- Decimal digits of a number. -/
def ofNat (n : Nat) : Text :=
  Nat.toDigits 10 n

end Text

end Cleave
