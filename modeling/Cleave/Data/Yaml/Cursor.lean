import Cleave.Text.Basic

/-!
# Positions in YAML text

Layout carries meaning in YAML, so a reader keeps track of lines and columns. Several characters end a line.
-/

namespace Cleave.Yaml

/-- A position in a text: what follows it, and its line and column. -/
structure Cursor where
  rest : Text
  /-- Bytes before the position. -/
  index : Nat := 0
  line : Nat := 0
  column : Nat := 0

/-- A character that ends a line. -/
def isBreak (c : Char) : Bool :=
  c == '\n' || c == '\r' || c == '\u0085' || c == '\u2028' || c == '\u2029'

/-- A blank within a line. -/
def isBlank (c : Char) : Bool :=
  c == ' ' || c == '\t'

/-- Whether a place holds a blank, a line end, or nothing. -/
def isGap : Option Char → Bool
  | none => true
  | some c => isBlank c || isBreak c

/-- Whether a place holds a line end or nothing. -/
def isLineEnd : Option Char → Bool
  | none => true
  | some c => isBreak c

namespace Cursor

/-- The character `n` places after the position. -/
def peek (c : Cursor) (n : Nat) : Option Char :=
  c.rest[n]?

/-- The character at the position. -/
def head (c : Cursor) : Option Char :=
  c.rest.head?

/-- The number of bytes of a text. -/
def byteCount (t : Text) : Nat :=
  t.foldl (fun n c => n + c.utf8Size) 0

/-- The position `n` characters further on the same line. -/
def skip (c : Cursor) (n : Nat) : Cursor :=
  { c with rest := c.rest.drop n, index := c.index + byteCount (c.rest.take n), column := c.column + n }

/-- The line end at the position as text, and the position after it. -/
def takeBreak (c : Cursor) : Text × Cursor :=
  let after (n : Nat) : Cursor :=
    { rest := c.rest.drop n, index := c.index + byteCount (c.rest.take n), line := c.line + 1, column := 0 }
  match c.rest with
  | '\r' :: '\n' :: _ => (['\n'], after 2)
  | x :: _ =>
    if x == '\u2028' || x == '\u2029' then ([x], after 1)
    else if isBreak x then (['\n'], after 1)
    else ([], c)
  | [] => ([], c)

/-- The longest run of characters that satisfy `p`, and the position after it. -/
def takeWhile (p : Char → Bool) (c : Cursor) : Text × Cursor :=
  let run := c.rest.takeWhile p
  (run, c.skip run.length)

/-- The position after blanks and a comment. -/
def skipToLineEnd (c : Cursor) : Cursor :=
  let c := (c.takeWhile isBlank).2
  if c.head = some '#' then (c.takeWhile fun x => !isBreak x).2 else c

/-- Whether a line starts here that begins or ends a document. -/
def atDocumentMark (c : Cursor) : Bool :=
  c.column == 0 && (c.rest.take 3 == "---".toList || c.rest.take 3 == "...".toList) && isGap (c.peek 3)

end Cursor

end Cleave.Yaml
