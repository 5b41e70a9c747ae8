import Cleave.Data.Yaml.Node
import Cleave.Data.Yaml.Scalar
import Cleave.Text.Utf8

/-!
# YAML tokens

The lexer turns layout into brackets: it opens a block where the indentation grows and closes it where it
shrinks. A key without a mark of its own is only known as a key once a colon follows it on the same line, so its
mark is put in afterwards.
-/

namespace Cleave.Yaml

/-- A token. -/
inductive Token
  /-- The version of the language. -/
  | version (major minor : Nat)
  /-- What a handle stands for at the start of a tag. -/
  | handle (name expansion : Text)
  | documentStart
  | documentEnd
  | blockSequence
  | blockMapping
  | blockEnd
  | listOpen
  | listClose
  | tableOpen
  | tableClose
  | item
  | comma
  | key
  | value
  | reference (name : Text)
  | anchor (name : Text)
  /-- A tag, of which a handle may be a part. -/
  | tag (handle : Option Text) (suffix : Text)
  | scalar (style : Style) (text : Text)
  deriving DecidableEq, Repr

/-- A place that may turn out to start a key. -/
structure Candidate where
  /-- The number of tokens before it. -/
  position : Nat
  /-- Whether only a key can stand here. -/
  required : Bool
  index : Nat
  line : Nat
  column : Nat

/-- A lexer at work. -/
structure Lexer where
  cursor : Cursor
  tokens : List Token := []
  /-- The number of tokens. -/
  count : Nat := 0
  /-- The columns of the open blocks, innermost first. -/
  blocks : List Nat := []
  /-- Candidates of the brackets around the position, innermost first; the last one is for none. -/
  candidates : List (Option Candidate) := [none]
  /-- Whether a key may start here. -/
  keyAllowed : Bool := true

namespace Lexer

/-- Whether the position is within brackets or braces. -/
def inFlow (l : Lexer) : Bool :=
  1 < l.candidates.length

/-- The least column of lines within the innermost block. -/
def margin (l : Lexer) : Nat :=
  match l.blocks with
  | [] => 0
  | b :: _ => b + 1

/-- Adds a token. Tokens are kept last first. -/
def emit (l : Lexer) (t : Token) : Lexer :=
  { l with tokens := t :: l.tokens, count := l.count + 1 }

/-- Puts a token after the first `position` tokens. -/
def insert (l : Lexer) (position : Nat) (t : Token) : Lexer :=
  let later := l.count - position
  { l with tokens := l.tokens.take later ++ t :: l.tokens.drop later, count := l.count + 1 }

/-- Gives up the candidate at this level, unless it had to become a key. -/
def dropCandidate (l : Lexer) : Option Lexer :=
  match l.candidates with
  | some c :: r => if c.required then none else some { l with candidates := none :: r }
  | _ => some l

/-- Gives up a candidate on an earlier line or too far back, unless it had to become a key. -/
def expire (cursor : Cursor) : Option Candidate → Option (Option Candidate)
  | none => some none
  | some c =>
    if c.line < cursor.line || c.index + 1024 < cursor.index then (if c.required then none else some none)
    else some (some c)

/-- Gives up all candidates that can no longer become keys. -/
def expireAll (l : Lexer) : Option Lexer :=
  (l.candidates.mapM (expire l.cursor)).map fun candidates => { l with candidates }

/-- Notes that a key may start at the position. -/
def addCandidate (l : Lexer) : Option Lexer :=
  if l.keyAllowed then
    l.dropCandidate.map fun l =>
      let c := l.cursor
      let candidate : Candidate :=
        { position := l.count, required := !l.inFlow && l.blocks.head? = some c.column
          index := c.index, line := c.line, column := c.column }
      { l with candidates := some candidate :: l.candidates.drop 1 }
  else some l

/-- Closes the blocks that are indented deeper than `column`. -/
def closeBlocks (column : Option Nat) : (fuel : Nat) → Lexer → Lexer
  | 0, l => l
  | fuel + 1, l =>
    match l.blocks with
    | [] => l
    | b :: bs =>
      if column.all (· < b) then closeBlocks column fuel { l.emit .blockEnd with blocks := bs } else l

/-- Closes the blocks that end before the position. -/
def closeTo (l : Lexer) (column : Option Nat) : Lexer :=
  if l.inFlow then l else closeBlocks column l.blocks.length l

/-- Opens a block at a column if it is deeper than the innermost one. -/
def openBlock (l : Lexer) (column position : Nat) (t : Token) : Lexer :=
  if !l.inFlow && l.margin ≤ column then { l.insert position t with blocks := column :: l.blocks } else l

/-- Moves on by `n` characters. -/
def skip (l : Lexer) (n : Nat) : Lexer :=
  { l with cursor := l.cursor.skip n }

/-- Passes over blanks, comments and line ends. A byte order mark may start a line and counts as a column. -/
def skipFiller : (fuel : Nat) → Lexer → Lexer
  | 0, l => l
  | fuel + 1, l =>
    let blank (x : Char) : Bool := x == ' ' || (x == '\t' && (l.inFlow || !l.keyAllowed))
    let c := if l.cursor.column = 0 && l.cursor.head = some '\uFEFF' then l.cursor.skip 1 else l.cursor
    let c := (c.takeWhile blank).2
    let c := if c.head = some '#' then (c.takeWhile fun x => !isBreak x).2 else c
    if c.head.any isBreak then
      skipFiller fuel { l with cursor := c.takeBreak.2, keyAllowed := l.keyAllowed || !l.inFlow }
    else { l with cursor := c }

/-- Takes in a mark outside of documents, with which all blocks end. -/
def outside (l : Lexer) (t : Token) (cursor : Cursor) : Option Lexer :=
  (l.closeTo none).dropCandidate.map fun l => { l.emit t with cursor, keyAllowed := false }

/-- Takes in an opening bracket or brace. -/
def openFlow (l : Lexer) (t : Token) : Option Lexer :=
  l.addCandidate.map fun l =>
    { l.emit t with candidates := none :: l.candidates, keyAllowed := true }.skip 1

/-- Takes in a closing bracket or brace. -/
def closeFlow (l : Lexer) (t : Token) : Option Lexer :=
  l.dropCandidate.map fun l =>
    let candidates := if l.inFlow then l.candidates.drop 1 else l.candidates
    { l.emit t with candidates, keyAllowed := false }.skip 1

/-- Takes in a mark before an item or a key. -/
def marked (l : Lexer) (t opening : Token) (keyAllowed : Bool) : Option Lexer :=
  if !l.inFlow && !l.keyAllowed then none
  else
    let l := l.openBlock l.cursor.column l.count opening
    l.dropCandidate.map fun l => { l.emit t with keyAllowed }.skip 1

/-- Takes in the colon before a value. -/
def colon (l : Lexer) : Option Lexer :=
  match l.candidates with
  | some c :: r =>
    let l := l.insert c.position .key
    let l := l.openBlock c.column c.position .blockMapping
    some ({ l.emit .value with candidates := none :: r, keyAllowed := false }.skip 1)
  | _ =>
    if l.inFlow then some ({ l.emit .value with keyAllowed := false }.skip 1)
    else if l.keyAllowed then
      let l := l.openBlock l.cursor.column l.count .blockMapping
      some ({ l.emit .value with keyAllowed := true }.skip 1)
    else none

/-- Takes in a scalar, a reference or a property, which may start a key. -/
def node (l : Lexer) (t : Token) (cursor : Cursor) (keyAllowed : Bool) : Option Lexer :=
  l.addCandidate.map fun l => { l.emit t with cursor, keyAllowed }

/-- Characters of the name of an anchor. -/
def isNameChar (x : Char) : Bool :=
  x.isAlphanum || x == '_' || x == '-'

/-- Takes in a reference or an anchor. -/
def name (l : Lexer) (t : Text → Token) : Option Lexer :=
  let (text, c) := (l.cursor.skip 1).takeWhile isNameChar
  if text != [] && (isGap c.head || (c.head.any fun x => "?:,]\x7d%@\x60".toList.contains x)) then
    l.node (t text) c false
  else none

/-- Characters of the address of a type. Some of them may stand only where nothing else can follow. -/
def isAddressChar (delimited : Bool) (x : Char) : Bool :=
  isNameChar x || ";/?:@&=+$.%!~*'()".toList.contains x || (delimited && ",[]".toList.contains x)

/-- The byte of an escape `%XX` at the position. -/
def escapedByte? (c : Cursor) : Option UInt8 :=
  match c.rest with
  | '%' :: x :: y :: _ => do return UInt8.ofNat (16 * (← Value.digit? x) + (← Value.digit? y))
  | _ => none

/-- The bytes that follow the first byte of a character, each escaped. -/
def escapedTail : (count : Nat) → Cursor → Option (Bytes × Cursor)
  | 0, c => some ([], c)
  | count + 1, c => do
    let b ← escapedByte? c
    if b &&& 0xC0 != 0x80 then none
    let (bytes, c) ← escapedTail count (c.skip 3)
    return (b :: bytes, c)

/-- An escaped character, as bytes. -/
def escapedChar (c : Cursor) : Option (Bytes × Cursor) := do
  let b ← escapedByte? c
  let count ←
    if b < 0x80 then some 0
    else if b &&& 0xE0 = 0xC0 then some 1
    else if b &&& 0xF0 = 0xE0 then some 2
    else if b &&& 0xF8 = 0xF0 then some 3
    else none
  let (bytes, c) ← escapedTail count (c.skip 3)
  return (b :: bytes, c)

/-- The bytes of the address of a type. -/
def addressBytes (delimited : Bool) : (fuel : Nat) → Cursor → Option (Bytes × Cursor)
  | 0, c => some ([], c)
  | fuel + 1, c =>
    match c.head with
    | some x =>
      if x = '%' then do
        let (bytes, c) ← escapedChar c
        let (more, c) ← addressBytes delimited fuel c
        return (bytes ++ more, c)
      else if isAddressChar delimited x then do
        let (more, c) ← addressBytes delimited fuel (c.skip 1)
        return (Utf8.encode [x] ++ more, c)
      else some ([], c)
    | none => some ([], c)

/-- The address of a type. -/
def address (delimited : Bool) (c : Cursor) : Option (Text × Cursor) :=
  (addressBytes delimited c.rest.length c).map fun (bytes, c) => (Utf8.decodeLenient bytes, c)

/-- A handle at the position: an exclamation mark, or a name between two of them. A name without the second mark
is no handle, but the beginning of an address. -/
def handle (c : Cursor) : Text × Bool × Cursor :=
  let (name, c) := (c.skip 1).takeWhile isNameChar
  if c.head = some '!' then ('!' :: name ++ ['!'], true, c.skip 1) else ('!' :: name, false, c)

/-- A tag: an address in angle brackets, an address after a handle, or a name after an exclamation mark, which
is a handle itself. -/
def tagToken (c : Cursor) : Option (Token × Cursor) :=
  if c.peek 1 = some '<' then do
    let (text, c) ← address true (c.skip 2)
    if text = [] || c.head != some '>' then none else return (.tag none text, c.skip 1)
  else
    let (name, closed, c) := handle c
    if closed then do
      let (text, c) ← address false c
      if text = [] then none else return (.tag (some name) text, c)
    else do
      let (text, c) ← address false c
      let suffix := name.drop 1 ++ text
      return (if suffix = [] then .tag none ['!'] else .tag (some ['!']) suffix, c)

/-- Takes in a tag. -/
def tag (l : Lexer) : Option Lexer := do
  let (t, c) ← tagToken l.cursor
  if isGap c.head || (l.inFlow && c.head = some ',') then l.node t c false else none

/-- A number of a version, of at most nine digits. -/
def versionNumber (c : Cursor) : Option (Nat × Cursor) := do
  let (digits, c) := c.takeWhile Char.isDigit
  if 9 < digits.length then none
  return (← Value.number? 10 digits, c)

/-- The value of a directive. -/
def directiveToken (name : Text) (c : Cursor) : Option (Token × Cursor) := do
  let c := (c.takeWhile isBlank).2
  if name = "YAML".toList then
    let (major, c) ← versionNumber c
    if c.head != some '.' then none
    let (minor, c) ← versionNumber (c.skip 1)
    return (.version major minor, c)
  else if name = "TAG".toList then
    if c.head != some '!' then none
    let (name, closed, c) := handle c
    if !closed && name != ['!'] then none
    if !c.head.any isBlank then none
    let (text, c) ← address true (c.takeWhile isBlank).2
    if text = [] || !isGap c.head then none
    return (.handle name text, c)
  else none

/-- Takes in a directive line. -/
def directive (l : Lexer) : Option Lexer := do
  let (name, c) := (l.cursor.skip 1).takeWhile isNameChar
  if !isGap c.head then none
  let (t, c) ← directiveToken name c
  let c := c.skipToLineEnd
  if isLineEnd c.head then l.outside t c.takeBreak.2 else none

/-- Takes in a block of lines. -/
def blockScalar (l : Lexer) (literal : Bool) : Option Lexer := do
  let l ← l.dropCandidate
  let (text, cursor) ← block literal l.margin (l.cursor.skip 1)
  return { l.emit (.scalar (if literal then .literal else .folded) text) with cursor, keyAllowed := true }

/-- Takes in a scalar in quotes. -/
def quotedScalar (l : Lexer) (single : Bool) : Option Lexer := do
  let (text, cursor) ← quoted single (l.cursor.rest.length + 1) (l.cursor.skip 1)
  l.node (.scalar .quoted text) cursor false

/-- Takes in a plain scalar. -/
def plainScalar (l : Lexer) : Option Lexer := do
  let (text, cursor, broken) ← plain l.inFlow l.margin (l.cursor.rest.length + 1) [] {} l.cursor
  l.node (.scalar .plain text) cursor broken

/-- Characters that cannot start a plain scalar. -/
def indicators : Text :=
  "-?:,[]\x7b\x7d#&*!|>'\"%@\x60".toList

/-- Whether a plain scalar starts at the position. -/
def startsPlain (l : Lexer) : Bool :=
  match l.cursor.head with
  | none => false
  | some x =>
    let next := l.cursor.peek 1
    !(isBlank x || indicators.contains x) || (x == '-' && !next.any isBlank) ||
      (!l.inFlow && (x == '?' || x == ':') && !isGap next)

/-- Takes in the token that starts with `x`. -/
def token (l : Lexer) (x : Char) : Option Lexer :=
  let spaced := isGap (l.cursor.peek 1)
  if l.cursor.column = 0 && x = '%' then l.directive
  else if l.cursor.atDocumentMark then
    l.outside (if x = '-' then .documentStart else .documentEnd) (l.cursor.skip 3)
  else if x = '[' then l.openFlow .listOpen
  else if x = '\x7b' then l.openFlow .tableOpen
  else if x = ']' then l.closeFlow .listClose
  else if x = '\x7d' then l.closeFlow .tableClose
  else if x = ',' then l.dropCandidate.map fun l => { l.emit .comma with keyAllowed := true }.skip 1
  else if x = '-' && spaced then l.marked .item .blockSequence true
  else if x = '?' && (l.inFlow || spaced) then l.marked .key .blockMapping (!l.inFlow)
  else if x = ':' && (l.inFlow || spaced) then l.colon
  else if x = '*' then l.name .reference
  else if x = '&' then l.name .anchor
  else if x = '!' then l.tag
  else if x = '|' && !l.inFlow then l.blockScalar true
  else if x = '>' && !l.inFlow then l.blockScalar false
  else if x = '\'' then l.quotedScalar true
  else if x = '"' then l.quotedScalar false
  else if l.startsPlain then l.plainScalar
  else none

/-- Takes in everything up to the end. -/
def run : (fuel : Nat) → Lexer → Option (List Token)
  | 0, _ => none
  | fuel + 1, l => do
    let l := l.skipFiller (l.cursor.rest.length + 1)
    let l ← l.expireAll
    match l.cursor.head with
    | none =>
      let l ← (l.closeTo none).dropCandidate
      if l.inFlow then none else return l.tokens.reverse
    | some x =>
      let l ← (l.closeTo (some l.cursor.column)).token x
      run fuel l

end Lexer

/-- Characters that a text may hold. -/
def isPrintable (x : Char) : Bool :=
  x == '\t' || x == '\n' || x == '\r' || (' ' ≤ x && x ≤ '~') || x == '\u0085' ||
    ('\u00a0' ≤ x && x != '\uFFFE' && x != '\uFFFF')

/-- The tokens of a text. -/
def tokens? (text : Text) : Option (List Token) :=
  if text.all isPrintable then Lexer.run (text.length + 2) { cursor := { rest := text } } else none

end Cleave.Yaml
