import Cleave.Data.Value
import Cleave.Data.Yaml.Cursor

/-!
# YAML scalars

Scalars are plain, in quotes, or blocks of lines. Line ends within plain and quoted scalars are folded: a single
one becomes a space, and of several the first is dropped.
-/

namespace Cleave.Yaml

/-- White space within a scalar. -/
structure Space where
  /-- Blanks, if no line ends. -/
  blanks : Text := []
  /-- The first line end. -/
  first : Text := []
  /-- Further line ends. -/
  further : Text := []
  broken : Bool := false

/-- The text that white space within a scalar stands for. -/
def Space.fold (s : Space) : Text :=
  if !s.broken then s.blanks
  else if s.first = ['\n'] then (if s.further = [] then [' '] else s.further)
  else s.first ++ s.further

/-- Takes in white space. After a line end no tabulator may stand before column `margin`. -/
def takeSpace (margin : Nat) : (fuel : Nat) → Space → Cursor → Option (Space × Cursor)
  | 0, s, c => some (s, c)
  | fuel + 1, s, c =>
    match c.head with
    | none => some (s, c)
    | some x =>
      if isBlank x then
        if s.broken then
          if x = '\t' && c.column < margin then none else takeSpace margin fuel s (c.skip 1)
        else takeSpace margin fuel { s with blanks := s.blanks ++ [x] } (c.skip 1)
      else if isBreak x then
        let (text, c) := c.takeBreak
        if s.broken then takeSpace margin fuel { s with further := s.further ++ text } c
        else takeSpace margin fuel { broken := true, first := text } c
      else some (s, c)

/-- Whether a plain scalar ends here: before a colon that a blank follows, and within brackets or braces also
before their punctuation. -/
def endsPlain (flow : Bool) (c : Cursor) : Bool :=
  isGap c.head || (c.head = some ':' && isGap (c.peek 1)) ||
    (flow && (c.head.any fun x => ",[]\x7b\x7d".toList.contains x))

/-- Whether a colon stands where it may not, before punctuation within brackets or braces. -/
def hasStrayColon (flow : Bool) (c : Cursor) : Bool :=
  flow && c.head = some ':' && ((c.peek 1).any fun x => ",?[]\x7b\x7d".toList.contains x)

/-- A run of a plain scalar without white space. -/
def plainRun (flow : Bool) : (fuel : Nat) → Cursor → Option (Text × Cursor)
  | 0, c => some ([], c)
  | fuel + 1, c =>
    match c.head with
    | none => some ([], c)
    | some x =>
      if isGap (some x) then some ([], c)
      else if hasStrayColon flow c then none
      else if endsPlain flow c then some ([], c)
      else (plainRun flow fuel (c.skip 1)).map fun (run, c) => (x :: run, c)

/-- A plain scalar: its text, the position after it, and whether line ends follow it. Outside of brackets and
braces its lines reach at least to column `margin`. -/
def plain (flow : Bool) (margin : Nat) : (fuel : Nat) → Text → Space → Cursor → Option (Text × Cursor × Bool)
  | 0, _, _, _ => none
  | fuel + 1, text, space, c =>
    if c.atDocumentMark || c.head = some '#' then some (text, c, space.broken)
    else
      match plainRun flow c.rest.length c with
      | none => none
      | some (run, c) =>
        let joined := if run = [] then text else text ++ space.fold ++ run
        let space : Space := if run = [] then space else {}
        if (c.head.any fun x => isBlank x || isBreak x) then
          match takeSpace margin c.rest.length {} c with
          | none => none
          | some (space, c) =>
            if !flow && c.column < margin then some (joined, c, space.broken)
            else plain flow margin fuel joined space c
        else some (joined, c, space.broken)

/-- The character that a letter after a backslash stands for. -/
def escape? (x : Char) : Option Char :=
  [('0', '\x00'), ('a', '\x07'), ('b', '\x08'), ('t', '\t'), ('\t', '\t'), ('n', '\n'), ('v', '\x0b'),
   ('f', '\x0c'), ('r', '\r'), ('e', '\x1b'), (' ', ' '), ('"', '"'), ('/', '/'), ('\\', '\\'),
   ('N', '\u0085'), ('_', '\u00a0'), ('L', '\u2028'), ('P', '\u2029')].lookup x

/-- The number of hexadecimal digits after a letter. -/
def digitCount? (x : Char) : Option Nat :=
  [('x', 2), ('u', 4), ('U', 8)].lookup x

/-- The character that an escape stands for, and the length of the escape. -/
def escaped? (c : Cursor) : Option (Char × Nat) :=
  (c.peek 1).bind fun x =>
    match escape? x with
    | some y => some (y, 2)
    | none =>
      (digitCount? x).bind fun n =>
        let digits := (c.rest.drop 2).take n
        if digits.length = n then
          (Value.number? 16 digits).bind fun code =>
            if code.isValidChar then some (Char.ofNat code, n + 2) else none
        else none

/-- The rest of a scalar in quotes. A single quote in single quotes is written twice; double quotes have
escapes, and a backslash at the end of a line joins it to the next. -/
def quoted (single : Bool) : (fuel : Nat) → Cursor → Option (Text × Cursor)
  | 0, _ => none
  | fuel + 1, c =>
    if c.atDocumentMark then none
    else
      match c.head with
      | none => none
      | some x =>
        let go (text : Text) (c : Cursor) : Option (Text × Cursor) :=
          (quoted single fuel c).map fun (more, c) => (text ++ more, c)
        if isGap (some x) then
          (takeSpace 0 c.rest.length {} c).bind fun (space, c) => go space.fold c
        else if single && x = '\'' then
          if c.peek 1 = some '\'' then go ['\''] (c.skip 2) else some ([], c.skip 1)
        else if !single && x = '"' then some ([], c.skip 1)
        else if !single && x = '\\' then
          if (c.peek 1).any isBreak then
            (takeSpace 0 c.rest.length { broken := true } (c.skip 1).takeBreak.2).bind fun (space, c) =>
              go space.fold c
          else (escaped? c).bind fun (y, n) => go [y] (c.skip n)
        else go [x] (c.skip 1)

/-- The line ends before the next line of a block that is not empty. The indentation is the deepest seen, unless
it is known. -/
def blockBreaks (known : Option Nat) :
    (fuel : Nat) → (deepest : Nat) → Text → Cursor → Option (Nat × Text × Cursor)
  | 0, deepest, breaks, c => some (deepest, breaks, c)
  | fuel + 1, deepest, breaks, c =>
    let spaces := (c.rest.takeWhile (· == ' ')).length
    let c := c.skip (match known with
      | some n => min spaces (n - c.column)
      | none => spaces)
    let deepest := max deepest c.column
    if c.head = some '\t' && known.all (c.column < ·) then none
    else if c.head.any isBreak then
      let (text, c) := c.takeBreak
      blockBreaks known fuel deepest (breaks ++ text) c
    else some (deepest, breaks, c)

/-- What happens to the line ends at the end of a block. -/
inductive Chomp
  | strip
  | clip
  | keep
  deriving DecidableEq

/-- The lines of a block. `first` is the line end before the position and `further` those after it; `indented`
tells whether the line before starts with a blank. -/
def blockLines (literal : Bool) (chomp : Chomp) (indent : Nat) :
    (fuel : Nat) → (text first further : Text) → (indented : Bool) → Cursor → Option (Text × Cursor)
  | 0, _, _, _, _, _ => none
  | fuel + 1, text, first, further, indented, c =>
    if c.column = indent && c.head.isSome then
      let blank := c.head.any isBlank
      let joint :=
        if !literal && first = ['\n'] && !indented && !blank then (if further = [] then [' '] else [])
        else first
      let (line, c) := c.takeWhile fun x => !isBreak x
      let (lineBreak, c) := c.takeBreak
      (blockBreaks (some indent) (c.rest.length + 1) 0 [] c).bind fun (_, breaks, c) =>
        blockLines literal chomp indent fuel (text ++ joint ++ further ++ line) lineBreak breaks blank c
    else
      let ending := match chomp with
        | .strip => []
        | .clip => first
        | .keep => first ++ further
      some (text ++ ending, c)

/-- The settings in the first line of a block: what to do with line ends, and the depth of indentation. -/
def blockHeader? (c : Cursor) : Option (Chomp × Option Nat × Cursor) :=
  let chomp? (c : Cursor) : Option Chomp := match c.head with
    | some '+' => some .keep
    | some '-' => some .strip
    | _ => none
  let depth? (c : Cursor) : Option Nat := (c.head.filter Char.isDigit).map fun x => x.toNat - '0'.toNat
  let result : Chomp × Option Nat × Cursor := match chomp? c with
    | some chomp =>
      match depth? (c.skip 1) with
      | some n => (chomp, some n, c.skip 2)
      | none => (chomp, none, c.skip 1)
    | none =>
      match depth? c with
      | some n =>
        match chomp? (c.skip 1) with
        | some chomp => (chomp, some n, c.skip 2)
        | none => (.clip, some n, c.skip 1)
      | none => (.clip, none, c)
  let c := result.2.2.skipToLineEnd
  if result.2.1 = some 0 || !isLineEnd c.head then none else some (result.1, result.2.1, c.takeBreak.2)

/-- A block after its mark. `margin` is the least column of its lines. -/
def block (literal : Bool) (margin : Nat) (c : Cursor) : Option (Text × Cursor) := do
  let (chomp, depth, c) ← blockHeader? c
  let known := depth.map fun n => margin - 1 + n
  let (deepest, breaks, c) ← blockBreaks known (c.rest.length + 1) 0 [] c
  let indent := known.getD (max deepest (max margin 1))
  blockLines literal chomp indent (c.rest.length + 1) [] [] breaks false c

end Cleave.Yaml
