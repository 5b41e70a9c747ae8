import Cleave.Pattern.Property
import Cleave.Pattern.Tree

/-!
# Reading patterns

`Tree.parse` reads a pattern from left to right with a stack of open groups. In verbose mode white space and
comments between the parts are skipped. Every step consumes a character, so a pattern is read in at most as
many steps as it has characters.
-/

namespace Cleave.Pattern

/-- Drops white space and comments; inside a comment everything up to the line feed goes. -/
def dropBlank : (inComment : Bool) → Text → Text
  | _, [] => []
  | true, c :: r => dropBlank (c != '\n') r
  | false, c :: r =>
    if Text.isBlankChar c then dropBlank false r
    else if c == '#' then dropBlank true r
    else c :: r

/-- In verbose mode, drops white space and comments. -/
def skipBlank (verbose : Bool) (t : Text) : Text :=
  if verbose then dropBlank false t else t

/-- Characters with a meaning of their own, which a backslash takes away. -/
def isMeta (c : Char) : Bool :=
  "\\.+*?()|[]\x7b\x7d^$#&-~".toList.contains c

/-- Characters that a backslash may precede without effect. -/
def isEscapable (c : Char) : Bool :=
  isMeta c || (c.toNat < 128 && !c.isAlphanum && c != '<' && c != '>')

/-- The value of a hexadecimal digit. -/
def hexDigit? (c : Char) : Option Nat :=
  if '0' ≤ c && c ≤ '9' then some (c.toNat - '0'.toNat)
  else if 'a' ≤ c && c ≤ 'f' then some (c.toNat - 'a'.toNat + 10)
  else if 'A' ≤ c && c ≤ 'F' then some (c.toNat - 'A'.toNat + 10)
  else none

/-- The character with a given code point, if there is one. -/
def scalar? (n : Nat) : Option Char :=
  if n < 0xD800 || (0xDFFF < n && n ≤ 0x10FFFF) then some (Char.ofNat n) else none

/-- Reads exactly `count` hexadecimal digits. -/
def readHexDigits (verbose : Bool) : (count : Nat) → (value : Nat) → Text → Except Fault (Nat × Text)
  | 0, value, t => .ok (value, t)
  | count + 1, value, t =>
    match t with
    | [] => .error .unfinishedEscape
    | c :: r =>
      match hexDigit? c with
      | none => .error .invalidHex
      | some d => readHexDigits verbose count (value * 16 + d) (skipBlank verbose r)

/-- Reads hexadecimal digits up to a closing brace; `fuel` bounds the number of characters. -/
def readHexBraced (verbose : Bool) : (fuel : Nat) → (value : Option Nat) → Text → Except Fault (Nat × Text)
  | 0, _, _ => .error .unfinishedEscape
  | fuel + 1, value, t =>
    match t with
    | [] => .error .unfinishedEscape
    | c :: r =>
      if c == '\x7d' then
        match value with
        | none => .error .invalidHex
        | some n => .ok (n, skipBlank verbose r)
      else
        match hexDigit? c with
        | none => .error .invalidHex
        | some d => readHexBraced verbose fuel (some (value.getD 0 * 16 + d)) (skipBlank verbose r)

/-- Reads the digits of a hexadecimal escape; `t` starts after the letter. -/
def readHex (verbose : Bool) (count : Nat) (t : Text) : Except Fault ((Char × Bool) × Text) := do
  let (n, byte, rest) ← match skipBlank verbose t with
    | [] => .error .unfinishedEscape
    | c :: r =>
      if c == '\x7b' then do
        let (n, rest) ← readHexBraced verbose (r.length + 1) none (skipBlank verbose r)
        pure (n, false, rest)
      else do
        let (n, rest) ← readHexDigits verbose count 0 (c :: r)
        pure (n, count == 2, rest)
  match scalar? n with
  | none => .error .invalidHex
  | some c => .ok ((c, byte), rest)

/-- Splits a text at the first occurrence of a separator. -/
def splitAtFirst (sep : Text) : (before : Text) → Text → Option (Text × Text)
  | _, [] => none
  | before, c :: r =>
    match Text.dropStart? sep (c :: r) with
    | some after => some (before.reverse, after)
    | none => splitAtFirst sep (c :: before) r

/-- A property query from the text between the braces. -/
def PropertyQuery.ofText (t : Text) : PropertyQuery :=
  match splitAtFirst "!=".toList [] t with
  | some (name, value) => .valued name value false
  | none =>
    match splitAtFirst [':'] [] t with
    | some (name, value) => .valued name value true
    | none =>
      match splitAtFirst ['='] [] t with
      | some (name, value) => .valued name value true
      | none => .named t

/-- Reads a property name up to the closing brace. -/
def readBracedName (verbose : Bool) : (fuel : Nat) → (name : Text) → Text → Except Fault (Text × Text)
  | 0, _, _ => .error .unfinishedEscape
  | fuel + 1, name, t =>
    match t with
    | [] => .error .unfinishedEscape
    | c :: r =>
      if c == '\x7d' then .ok (name.reverse, r)
      else readBracedName verbose fuel (c :: name) (skipBlank verbose r)

/-- Reads a property after the letter `p` or `P`. -/
def readProperty (verbose : Bool) (t : Text) : Except Fault (PropertyQuery × Text) :=
  match skipBlank verbose t with
  | [] => .error .unfinishedEscape
  | c :: r =>
    if c == '\x7b' then do
      let (name, rest) ← readBracedName verbose (r.length + 1) [] (skipBlank verbose r)
      pure (.ofText name, rest)
    else if c == '\\' then .error .unknownProperty
    else .ok (.named [c], skipBlank verbose r)

/-- Characters of the name of a special word boundary. -/
def isBoundaryChar (c : Char) : Bool :=
  c.isAlpha || c == '-'

/-- Reads the name of a special word boundary. -/
def readBoundaryName (verbose : Bool) : (fuel : Nat) → (name : Text) → Text → Text × Text
  | 0, name, t => (name.reverse, t)
  | fuel + 1, name, t =>
    match t with
    | [] => (name.reverse, [])
    | c :: r =>
      if isBoundaryChar c then readBoundaryName verbose fuel (c :: name) (skipBlank verbose r)
      else (name.reverse, c :: r)

/-- Reads what follows `\b`: a braced name makes a special boundary, anything else is left alone. -/
def readBoundary (verbose : Bool) (t : Text) : Except Fault (Anchor × Text) :=
  match t with
  | '\x7b' :: r =>
    match skipBlank verbose r with
    | [] => .error .unclosedBoundary
    | c :: s =>
      if isBoundaryChar c then
        let (name, rest) := readBoundaryName verbose (s.length + 1) [] (c :: s)
        match rest with
        | '\x7d' :: after =>
          match String.ofList name with
          | "start" => .ok (.wordStart, after)
          | "end" => .ok (.wordEnd, after)
          | "start-half" => .ok (.wordStartHalf, after)
          | "end-half" => .ok (.wordEndHalf, after)
          | _ => .error .unclosedBoundary
        | _ => .error .unclosedBoundary
      else .ok (.wordEdge, t)
  | _ => .ok (.wordEdge, t)

/-- Reads an escape; `t` starts after the backslash. -/
def readEscape (verbose : Bool) (t : Text) : Except Fault (Tree × Text) :=
  match t with
  | [] => .error .unfinishedEscape
  | c :: r =>
    if c.isDigit then .error .backReference
    else if isEscapable c then .ok (.literal c false, r)
    else match c with
      | 'x' => (readHex verbose 2 r).map fun ((c, byte), rest) => (.literal c byte, rest)
      | 'u' => (readHex verbose 4 r).map fun ((c, byte), rest) => (.literal c byte, rest)
      | 'U' => (readHex verbose 8 r).map fun ((c, byte), rest) => (.literal c byte, rest)
      | 'p' => (readProperty verbose r).map fun (q, rest) => (.property q false, rest)
      | 'P' => (readProperty verbose r).map fun (q, rest) => (.property q true, rest)
      | 'd' => .ok (.shorthand .digit false, r)
      | 'D' => .ok (.shorthand .digit true, r)
      | 's' => .ok (.shorthand .space false, r)
      | 'S' => .ok (.shorthand .space true, r)
      | 'w' => .ok (.shorthand .word false, r)
      | 'W' => .ok (.shorthand .word true, r)
      | 'a' => .ok (.literal '\x07' false, r)
      | 'f' => .ok (.literal '\x0c' false, r)
      | 't' => .ok (.literal '\t' false, r)
      | 'n' => .ok (.literal '\n' false, r)
      | 'r' => .ok (.literal '\r' false, r)
      | 'v' => .ok (.literal '\x0b' false, r)
      | 'A' => .ok (.anchor .textStart, r)
      | 'z' => .ok (.anchor .textEnd, r)
      | 'b' => (readBoundary verbose r).map fun (a, rest) => (.anchor a, rest)
      | 'B' => .ok (.anchor .noWordEdge, r)
      | '<' => .ok (.anchor .wordStart, r)
      | '>' => .ok (.anchor .wordEnd, r)
      | _ => .error .unknownEscape

/-- Reads one member of a bracketed class, which is not empty. -/
def readClassMember (verbose : Bool) (t : Text) : Except Fault (Tree × Text) :=
  match t with
  | [] => .error .unclosedClass
  | '\\' :: r => readEscape verbose r
  | c :: r => .ok (.literal c false, r)

/-- A tree as a member of a class. -/
def ClassTree.ofTree? : Tree → Except Fault ClassTree
  | .literal c _ => .ok (.literal c)
  | .shorthand kind negated => .ok (.shorthand kind negated)
  | .property query negated => .ok (.property query negated)
  | _ => .error .invalidClassItem

/-- A tree as an end of a range. -/
def rangeEnd? : Tree → Except Fault Char
  | .literal c _ => .ok c
  | _ => .error .invalidClassRange

/-- Reads a member of a class, or a range between two of them. -/
def readClassRange (verbose : Bool) (t : Text) : Except Fault (ClassTree × Text) := do
  let (first, rest) ← readClassMember verbose t
  match skipBlank verbose rest with
  | [] => .error .unclosedClass
  | c :: r =>
    let after := skipBlank verbose r
    if c != '-' || after.head? == some ']' || after.head? == some '-' then
      return (← ClassTree.ofTree? first, c :: r)
    if after.isEmpty then .error .unclosedClass
    let (last, rest) ← readClassMember verbose after
    let a ← rangeEnd? first
    let b ← rangeEnd? last
    if a.toNat ≤ b.toNat then return (.range a b, rest) else .error .invalidClassRange

/-- Reads an ASCII class such as `[:alpha:]`; `t` starts after the opening bracket. -/
def readAsciiClass? (t : Text) : Option (ClassTree × Text) :=
  match t with
  | ':' :: r =>
    let (negated, r) := match r with
      | '^' :: s => (true, s)
      | _ => (false, r)
    let name := r.takeWhile (· != ':')
    match r.drop name.length with
    | ':' :: ']' :: rest =>
      if (Property.asciiClass (String.ofList name)).isSome then
        some (.ascii (String.ofList name) negated, rest)
      else none
    | _ => none
  | _ => none

/-- An open bracket: what stood before it, its negation, and an operation waiting for its right side. -/
structure OpenClass where
  before : List ClassTree
  negated : Bool
  waiting : Option (ClassTree × ClassOp) := none

/-- Literal `-` signs at the start of a class. -/
def readLeadingDashes (verbose : Bool) :
    (fuel : Nat) → List ClassTree → Text → Except Fault (List ClassTree × Text)
  | 0, items, t => .ok (items, t)
  | fuel + 1, items, t =>
    match t with
    | [] => .error .unclosedClass
    | '-' :: r => readLeadingDashes verbose fuel (.literal '-' :: items) (skipBlank verbose r)
    | t => .ok (items, t)

/-- Reads what follows an opening bracket: the negation sign, leading dashes, and a leading `]`. -/
def readClassStart (verbose : Bool) (t : Text) : Except Fault ((Bool × List ClassTree) × Text) := do
  let t := skipBlank verbose t
  let (negated, t) := match t with
    | '^' :: r => (true, skipBlank verbose r)
    | _ => (false, t)
  if t.isEmpty then .error .unclosedClass
  let (items, t) ← readLeadingDashes verbose (t.length + 1) [] t
  match items, t with
  | [], ']' :: r =>
    let r := skipBlank verbose r
    if r.isEmpty then .error .unclosedClass
    return ((negated, [.literal ']']), r)
  | _, [] => .error .unclosedClass
  | _, _ => return ((negated, items), t)

/-- The value of an open bracket whose last operand is `items` (in reverse). -/
def OpenClass.close (o : OpenClass) (items : List ClassTree) : ClassTree :=
  let last := ClassTree.ofItems items.reverse
  match o.waiting with
  | none => last
  | some (left, kind) => .op kind left last

/-- Reads a bracketed class; `stack` holds the open brackets, innermost first, and `items` the members of
the innermost one in reverse. -/
def readClass (verbose : Bool) :
    (fuel : Nat) → List OpenClass → List ClassTree → Text → Except Fault ((Bool × ClassTree) × Text)
  | 0, _, _, _ => .error .unclosedClass
  | fuel + 1, stack, items, t =>
    match skipBlank verbose t, stack with
    | [], _ => .error .unclosedClass
    | _, [] => .error .unclosedClass
    | '[' :: r, o :: outer =>
      match readAsciiClass? r with
      | some (cls, rest) => readClass verbose fuel (o :: outer) (cls :: items) rest
      | none => do
        let ((negated, start), rest) ← readClassStart verbose r
        readClass verbose fuel ({ before := items, negated } :: o :: outer) start rest
    | ']' :: r, o :: outer =>
      let body := o.close items
      if outer.isEmpty then .ok ((o.negated, body), r)
      else readClass verbose fuel outer (.bracketed o.negated body :: o.before) r
    | '&' :: '&' :: r, o :: outer =>
      readClass verbose fuel ({ o with waiting := some (o.close items, .inter) } :: outer) [] r
    | '-' :: '-' :: r, o :: outer =>
      readClass verbose fuel ({ o with waiting := some (o.close items, .diff) } :: outer) [] r
    | '~' :: '~' :: r, o :: outer =>
      readClass verbose fuel ({ o with waiting := some (o.close items, .symmDiff) } :: outer) [] r
    | t, stack => do
      let (item, rest) ← readClassRange verbose t
      readClass verbose fuel stack (item :: items) rest

/-- The flag of a letter. -/
def Flag.ofChar? : Char → Option Flag
  | 'i' => some .ignoreCase
  | 'm' => some .multiLine
  | 's' => some .dotAll
  | 'U' => some .swapGreed
  | 'u' => some .unicode
  | 'R' => some .crlf
  | 'x' => some .verbose
  | _ => none

/-- Reads flags up to the `:` or `)` that ends them, which stays. `off` tells that the sign `-` was read and
`dangling` that it was the last character read. -/
def readFlags : (off dangling : Bool) → FlagChange → Text → Except Fault (FlagChange × Text)
  | _, _, _, [] => .error .invalidFlags
  | off, dangling, change, c :: r =>
    if c == ':' || c == ')' then
      if dangling then .error .invalidFlags else .ok (change.reverse, c :: r)
    else if c == '-' then
      if off then .error .invalidFlags else readFlags true true change r
    else
      match Flag.ofChar? c with
      | none => .error .invalidFlags
      | some f =>
        if change.any (·.1 == f) then .error .invalidFlags
        else readFlags off false ((f, !off) :: change) r

/-- Whether a character may stand in a group name. -/
def isNameChar (first : Bool) (c : Char) : Bool :=
  if first then c == '_' || CharSet.memRanges Property.alphabeticRanges c.toNat
  else c == '_' || c == '.' || c == '[' || c == ']' ||
    CharSet.memRanges Property.alphanumericRanges c.toNat

/-- Reads a group name up to its closing `>`. -/
def readGroupName : (name : Text) → Text → Except Fault (Text × Text)
  | _, [] => .error .invalidGroupName
  | name, c :: r =>
    if c == '>' then
      if name.isEmpty then .error .invalidGroupName else .ok (name.reverse, r)
    else if isNameChar name.isEmpty c then readGroupName (c :: name) r
    else .error .invalidGroupName

/-- What an open group will become. -/
inductive GroupKind
  | capture (index : Nat)
  | plain (change : FlagChange)

/-- An open group with what stood before it, or the finished branches of an alternation (both in reverse). -/
inductive Frame
  | group (before : List Tree) (kind : GroupKind) (verbose : Bool)
  | alternation (branches : List Tree)

/-- The state of the reader. -/
structure Parsing where
  rest : Text
  frames : List Frame := []
  /-- Items of the sequence being read, in reverse. -/
  items : List Tree := []
  verbose : Bool := false
  /-- Index of the next capture group. -/
  nextGroup : Nat := 1
  names : List (Text × Nat) := []

/-- The verbose switch of a change of flags, if it has one. -/
def FlagChange.verbose? (change : FlagChange) : Option Bool :=
  change.lookup .verbose

/-- Opens a named group. -/
def Parsing.openNamed (p : Parsing) (t : Text) : Except Fault Parsing := do
  let (name, rest) ← readGroupName [] t
  if p.names.any (·.1 == name) then .error .duplicateGroupName
  return { p with
    rest, items := [], frames := .group p.items (.capture p.nextGroup) p.verbose :: p.frames
    nextGroup := p.nextGroup + 1, names := p.names ++ [(name, p.nextGroup)] }

/-- Reads an opening parenthesis; `t` starts after it. -/
def Parsing.openGroup (p : Parsing) (t : Text) : Except Fault Parsing :=
  match skipBlank p.verbose t with
  | '?' :: '=' :: _ | '?' :: '!' :: _ | '?' :: '<' :: '=' :: _ | '?' :: '<' :: '!' :: _ => .error .lookAround
  | '?' :: 'P' :: '<' :: r => p.openNamed r
  | '?' :: '<' :: r => p.openNamed r
  | '?' :: r => do
    if r.isEmpty then .error .unclosedGroup
    let (change, rest) ← readFlags false false [] r
    match rest with
    | ')' :: rest =>
      if change.isEmpty then .error .nothingToRepeat
      return { p with
        rest, items := .flags change :: p.items, verbose := (FlagChange.verbose? change).getD p.verbose }
    | _ =>
      return { p with
        rest := rest.drop 1, items := []
        frames := .group p.items (.plain change) p.verbose :: p.frames
        verbose := (FlagChange.verbose? change).getD p.verbose }
  | r =>
    .ok { p with
      rest := r, items := [], frames := .group p.items (.capture p.nextGroup) p.verbose :: p.frames
      nextGroup := p.nextGroup + 1 }

/-- The tree of a finished sequence, with the finished branches before it. -/
def Tree.ofBranches (branches items : List Tree) : Tree :=
  if branches.isEmpty then Tree.ofItems items.reverse
  else .alternation (branches.reverse ++ [Tree.ofItems items.reverse])

/-- Builds the tree of a group. -/
def GroupKind.tree (kind : GroupKind) (body : Tree) : Tree :=
  match kind with
  | capture index => .capture index body
  | plain change => .group change body

/-- Reads a closing parenthesis. -/
def Parsing.closeGroup (p : Parsing) (t : Text) : Except Fault Parsing :=
  let close (before : List Tree) (kind : GroupKind) (verbose : Bool) (body : Tree) (frames : List Frame) :=
    { p with rest := t, frames, items := kind.tree body :: before, verbose }
  match p.frames with
  | .group before kind verbose :: frames => .ok (close before kind verbose (Tree.ofBranches [] p.items) frames)
  | .alternation branches :: .group before kind verbose :: frames =>
    .ok (close before kind verbose (Tree.ofBranches branches p.items) frames)
  | _ => .error .unopenedGroup

/-- Reads the sign `|`. -/
def Parsing.alternate (p : Parsing) (t : Text) : Parsing :=
  let branch := Tree.ofItems p.items.reverse
  match p.frames with
  | .alternation branches :: frames =>
    { p with rest := t, items := [], frames := .alternation (branch :: branches) :: frames }
  | frames => { p with rest := t, items := [], frames := .alternation [branch] :: frames }

/-- Takes off the item that a repetition applies to. -/
def Parsing.takeRepeated (p : Parsing) : Except Fault (Tree × List Tree) :=
  match p.items with
  | [] | .empty :: _ | .flags _ :: _ => .error .nothingToRepeat
  | t :: items => .ok (t, items)

/-- Reads a `?` that makes a repetition lazy. -/
def readLazy : Text → Bool × Text
  | '?' :: r => (false, r)
  | t => (true, t)

/-- Reads one of the signs `?`, `*` and `+`; `t` starts after it. -/
def Parsing.repeatSign (p : Parsing) (least : Nat) (most : Option Nat) (t : Text) : Except Fault Parsing := do
  let (body, items) ← p.takeRepeated
  let (greedy, rest) := readLazy t
  return { p with rest, items := .repetition least most greedy body :: items }

/-- Decimal digits, with blanks between them in verbose mode. -/
def readDigits (verbose : Bool) : (fuel : Nat) → (value : Option Nat) → Text → Option Nat × Text
  | 0, value, t => (value, t)
  | fuel + 1, value, t =>
    match t with
    | [] => (value, [])
    | c :: r =>
      if c.isDigit then readDigits verbose fuel (some (value.getD 0 * 10 + (c.toNat - '0'.toNat))) (skipBlank verbose r)
      else (value, c :: r)

/-- Reads a decimal count with blanks around it; no digits at all give `none`. -/
def readCount (verbose : Bool) (t : Text) : Except Fault ((Option Nat) × Text) :=
  let t := t.dropWhile Text.isBlankChar
  let (value, rest) := readDigits verbose (t.length + 1) none t
  let rest := (skipBlank verbose rest).dropWhile Text.isBlankChar
  match value with
  | some n => if n ≤ 4294967295 then .ok (some n, skipBlank verbose rest) else .error .invalidCount
  | none => .ok (none, skipBlank verbose rest)

/-- Reads a counted repetition; `t` starts after the opening brace. -/
def Parsing.repeatCount (p : Parsing) (t : Text) : Except Fault Parsing := do
  let (body, items) ← p.takeRepeated
  let (first, rest) ← readCount p.verbose (skipBlank p.verbose t)
  let (least, most, rest) ← match rest with
    | ',' :: r =>
      match skipBlank p.verbose r with
      | '\x7d' :: s =>
        match first with
        | some n => pure (n, none, '\x7d' :: s)
        | none => .error .invalidCount
      | s => do
        let (second, rest) ← readCount p.verbose s
        match first, second with
        | some n, some m => pure (n, some m, rest)
        | _, _ => .error .invalidCount
    | r =>
      match first with
      | some n => pure (n, some n, r)
      | none => .error .invalidCount
  match rest with
  | '\x7d' :: r =>
    let (greedy, r) := readLazy (skipBlank p.verbose r)
    if most.any (· < least) then .error .invalidCount
    return { p with rest := r, items := .repetition least most greedy body :: items }
  | _ => .error .invalidCount

/-- Adds one item. -/
def Parsing.push (p : Parsing) (item : Tree) (rest : Text) : Parsing :=
  { p with rest, items := item :: p.items }

/-- Reads one construct that starts with the character `c`; `t` starts after it. -/
def Parsing.step (p : Parsing) (c : Char) (t : Text) : Except Fault Parsing :=
  match c with
  | '(' => p.openGroup t
  | ')' => p.closeGroup t
  | '|' => .ok (p.alternate t)
  | '?' => p.repeatSign 0 (some 1) t
  | '*' => p.repeatSign 0 none t
  | '+' => p.repeatSign 1 none t
  | '\x7b' => p.repeatCount t
  | '[' => do
    let ((negated, start), rest) ← readClassStart p.verbose t
    let ((negated, body), rest) ← readClass p.verbose (t.length + 1) [{ before := [], negated }] start rest
    return p.push (.bracketed negated body) rest
  | '\\' => do
    let (item, rest) ← readEscape p.verbose t
    return p.push item rest
  | '.' => .ok (p.push .dot t)
  | '^' => .ok (p.push (.anchor .lineStart) t)
  | '$' => .ok (p.push (.anchor .lineEnd) t)
  | c => .ok (p.push (.literal c false) t)

/-- Reads constructs until the pattern ends. -/
def Parsing.run : (fuel : Nat) → Parsing → Except Fault Parsing
  | 0, p => .ok p
  | fuel + 1, p =>
    match skipBlank p.verbose p.rest with
    | [] => .ok { p with rest := [] }
    | c :: t => do (← p.step c t).run fuel

/-- The tree at the end of the pattern, where no group may be open. -/
def Parsing.finish (p : Parsing) : Except Fault Tree :=
  match p.frames with
  | [] => .ok (Tree.ofBranches [] p.items)
  | [.alternation branches] => .ok (Tree.ofBranches branches p.items)
  | _ => .error .unclosedGroup

/-- The deepest nesting that a pattern may have. -/
def depthLimit : Nat := 250

/-- Reads a pattern: its tree and the names of its groups. -/
def Tree.parse (source : Text) : Except Fault (Tree × List (Text × Nat)) := do
  let p ← Parsing.run (source.length + 1) { rest := source }
  let tree ← p.finish
  if tree.depth ≤ depthLimit then return (tree, p.names) else .error .tooDeep

end Cleave.Pattern
