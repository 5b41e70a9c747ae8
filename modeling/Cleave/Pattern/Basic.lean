import Cleave.Pattern.Matcher
import Cleave.Pattern.Parser
import Cleave.Pattern.Size

/-!
# Patterns

A compiled regular expression: `Pattern.compile` reads it, `find?` looks for the first match, `findAll` for
all matches from left to right, and `replaceAll` replaces each of them by a template.
-/

namespace Cleave

/-- A compiled pattern. -/
structure Pattern where
  /-- The text it was read from. -/
  source : Text
  /-- The number of groups, the whole match included. -/
  groups : Nat
  /-- Group names with their indices. -/
  names : List (Text × Nat)
  program : Pattern.Program

namespace Pattern

/-- The largest compiled size in bytes. -/
def sizeLimit : Nat := 10485760

/-- Reads a pattern, ignoring case if asked. -/
def compile (ignoreCase : Bool) (source : Text) : Except Fault Pattern := do
  let (tree, names) ← Tree.parse source
  let (expr, _) ← tree.expr { ignoreCase }
  if sizeLimit < expr.size then .error .tooLarge
  return { source, groups := expr.groups, names, program := .ofExpr expr }

/-- A reader of patterns, which ignores case if asked. It gives the pattern or says why there is none. -/
abbrev Reader := (ignoreCase : Bool) → (source : Text) → Except Text Pattern

/-- Reads a pattern or says why it is none. -/
def read : Reader := fun ignoreCase source =>
  (compile ignoreCase source).mapError fun fault => fault.message.toList

/-- Whether the pattern captures something besides the whole match. -/
def hasCapture (p : Pattern) : Bool :=
  2 ≤ p.groups

/-- A match in a text: the positions of its groups. -/
structure Match where
  slots : Slots

/-- The start and end of a group that took part in the match. -/
def Match.span? (m : Match) (group : Nat) : Option (Nat × Nat) :=
  match m.slots[2 * group]?, m.slots[2 * group + 1]? with
  | some (some a), some (some b) => some (a, b)
  | _, _ => none

/-- Where the match starts. -/
def Match.start (m : Match) : Nat :=
  ((m.span? 0).map Prod.fst).getD 0

/-- Where the match ends. -/
def Match.stop (m : Match) : Nat :=
  ((m.span? 0).map Prod.snd).getD 0

/-- The text of a group that took part in the match. -/
def Match.group? (m : Match) (text : Text) (group : Nat) : Option Text :=
  (m.span? group).map fun (a, b) => (text.drop a).take (b - a)

/-- The text of a named group that took part in the match. -/
def Match.named? (m : Match) (p : Pattern) (text : Text) (name : Text) : Option Text :=
  (p.names.lookup name).bind (m.group? text)

/-- The first match in `rest`, which starts at position `index` after the character `before`. -/
def findFrom (p : Pattern) (before : Option Char) (index : Nat) (rest : Text) : Option Match :=
  (runFrom p.program (2 * p.groups) before index (.fresh p.program) none rest).map Match.mk

/-- The first match in a text. -/
def find? (p : Pattern) (text : Text) : Option Match :=
  p.findFrom none 0 text

/-- Whether the pattern matches somewhere in a text. -/
def occursIn (p : Pattern) (text : Text) : Bool :=
  (p.find? text).isSome

/-- The character before a position and the text after it. -/
def split (before : Option Char) (rest : Text) (n : Nat) : Option Char × Text :=
  (if n = 0 then before else rest[n - 1]?, rest.drop n)

/-- Matches that do not overlap, from left to right. An empty match right after the match before it is passed
over. Each round starts further right, so the length of the text bounds their number. -/
def findAllFrom (p : Pattern) :
    (fuel : Nat) → (before : Option Char) → (index : Nat) → (lastStop : Option Nat) → Text → List Match
  | 0, _, _, _, _ => []
  | fuel + 1, before, index, lastStop, rest =>
    match p.findFrom before index rest with
    | none => []
    | some m =>
      let next (m : Match) (before : Option Char) (index : Nat) (rest : Text) : List Match :=
        let (b, r) := split before rest (m.stop - index)
        m :: findAllFrom p fuel b m.stop (some m.stop) r
      if m.start = m.stop && lastStop = some m.stop then
        match rest with
        | [] => []
        | c :: r =>
          match p.findFrom (some c) (index + 1) r with
          | none => []
          | some m => next m (some c) (index + 1) r
      else next m before index rest

/-- All matches in a text that do not overlap, from left to right. -/
def findAll (p : Pattern) (text : Text) : List Match :=
  p.findAllFrom (text.length + 2) none 0 none text

/-- A part of a replacement template. -/
inductive Piece
  | char (c : Char)
  | group (index : Nat)
  | named (name : Text)

/-- Characters of a group reference without braces. -/
def isReferenceChar (c : Char) : Bool :=
  c.isAlphanum || c == '_'

/-- The value of a decimal numeral with an optional plus sign, if it fits into 64 bits. -/
def number? (t : Text) : Option Nat :=
  let digits := match t with
    | '+' :: r => r
    | _ => t
  if digits.isEmpty || !digits.all Char.isDigit then none
  else
    let n := digits.foldl (fun n c => n * 10 + (c.toNat - '0'.toNat)) 0
    if n < 18446744073709551616 then some n else none

/-- A reference to a group by number or name. -/
def Piece.ofReference (t : Text) : Piece :=
  match number? t with
  | some n => .group n
  | none => .named t

/-- Reads a replacement template: `$1` and `$name` take the longest name, `${…}` delimits it, `$$` is a dollar
sign, and a dollar sign before anything else stands for itself. -/
def pieces : (fuel : Nat) → Text → List Piece
  | 0, _ => []
  | _, [] => []
  | fuel + 1, '$' :: '$' :: r => .char '$' :: pieces fuel r
  | fuel + 1, '$' :: '\x7b' :: r =>
    let name := r.takeWhile (· != '\x7d')
    match r.drop name.length with
    | _ :: rest => .ofReference name :: pieces fuel rest
    | [] => .char '$' :: pieces fuel ('\x7b' :: r)
  | fuel + 1, '$' :: r =>
    let name := r.takeWhile isReferenceChar
    if name.isEmpty then .char '$' :: pieces fuel r
    else .ofReference name :: pieces fuel (r.drop name.length)
  | fuel + 1, c :: r => .char c :: pieces fuel r

/-- The text of a template piece for a match; a group that took no part gives nothing. -/
def Piece.render (p : Pattern) (m : Match) (text : Text) : Piece → Text
  | char c => [c]
  | group index => (m.group? text index).getD []
  | named name => (m.named? p text name).getD []

/-- Puts the rendered template in place of each match; `index` is the position where `rest` starts. -/
def replaceFrom (p : Pattern) (template : List Piece) (text : Text) :
    (index : Nat) → (rest : Text) → List Match → Text
  | _, rest, [] => rest
  | index, rest, m :: ms =>
    rest.take (m.start - index) ++ template.flatMap (Piece.render p m text) ++
      replaceFrom p template text m.stop (rest.drop (m.stop - index)) ms

/-- Replaces every match in a text by the template. -/
def replaceAll (p : Pattern) (template text : Text) : Text :=
  p.replaceFrom (pieces (template.length + 1) template) text 0 text (p.findAll text)

end Pattern

end Cleave
