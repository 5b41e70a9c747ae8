import Cleave.Text.Basic

/-!
# Pattern trees

What a pattern says before it is given a meaning: literals, classes, anchors, groups, repetitions, and the
flags that change how the rest is read. `Fault` lists the ways in which a text fails to be a pattern.
-/

namespace Cleave.Pattern

/-- Why a text is not a pattern. -/
inductive Fault
  | unclosedGroup
  | unopenedGroup
  | unclosedClass
  | invalidClassRange
  | invalidClassItem
  | unfinishedEscape
  | unknownEscape
  | backReference
  | lookAround
  | invalidHex
  | unknownProperty
  | nothingToRepeat
  | invalidCount
  | invalidFlags
  | invalidGroupName
  | duplicateGroupName
  | unclosedBoundary
  | notUtf8
  | tooDeep
  | tooLarge
  deriving DecidableEq, Inhabited, Repr

/-- What is said of a fault. Only how this begins is fixed: the full wording shows the place of the fault in the
pattern, which is not kept here. Whoever needs another wording takes another reader (`Pattern.Reader`). -/
def Fault.message : Fault → String
  | unclosedGroup => "regex parse error: unclosed group"
  | unopenedGroup => "regex parse error: unopened group"
  | unclosedClass => "regex parse error: unclosed character class"
  | invalidClassRange => "regex parse error: invalid character class range, the start must be <= the end"
  | invalidClassItem => "regex parse error: invalid escape sequence found in character class"
  | unfinishedEscape => "regex parse error: incomplete escape sequence, reached end of pattern prematurely"
  | unknownEscape => "regex parse error: unrecognized escape sequence"
  | backReference => "regex parse error: backreferences are not supported"
  | lookAround => "regex parse error: look-around, including look-ahead and look-behind, is not supported"
  | invalidHex => "regex parse error: hexadecimal literal is not a Unicode scalar value"
  | unknownProperty => "regex parse error: Unicode property not found"
  | nothingToRepeat => "regex parse error: repetition operator missing expression"
  | invalidCount => "regex parse error: invalid repetition count"
  | invalidFlags => "regex parse error: invalid flags"
  | invalidGroupName => "regex parse error: invalid capture group name"
  | duplicateGroupName => "regex parse error: duplicate capture group name"
  | unclosedBoundary => "regex parse error: special word boundary assertion is either unclosed or unknown"
  | notUtf8 => "regex parse error: pattern can match invalid UTF-8"
  | tooDeep => "regex parse error: exceeded the maximum number of nested parentheses/brackets (250)"
  | tooLarge => "Compiled regex exceeds size limit of 10485760 bytes."

/-- Switches that change the meaning of what follows them. -/
inductive Flag
  | ignoreCase
  | multiLine
  | dotAll
  | swapGreed
  | unicode
  | crlf
  | verbose
  deriving DecidableEq, Repr

/-- Flags to switch on (`true`) or off, in the order written. -/
abbrev FlagChange := List (Flag × Bool)

/-- The shorthand classes. -/
inductive Shorthand
  | digit
  | space
  | word
  deriving DecidableEq, Repr

/-- How a Unicode property is asked for. -/
inductive PropertyQuery
  | named (name : Text)
  | valued (name value : Text) (equal : Bool)
  deriving Repr

/-- Operations on two character classes. -/
inductive ClassOp
  | inter
  | diff
  | symmDiff
  deriving DecidableEq, Repr

/-- A bracketed class, or a part of one. -/
inductive ClassTree
  | literal (c : Char)
  | range (first last : Char)
  | ascii (name : String) (negated : Bool)
  | shorthand (kind : Shorthand) (negated : Bool)
  | property (query : PropertyQuery) (negated : Bool)
  | bracketed (negated : Bool) (body : ClassTree)
  | union (items : List ClassTree)
  | op (kind : ClassOp) (left right : ClassTree)

/-- Conditions on a position of the text. -/
inductive Anchor
  | lineStart
  | lineEnd
  | textStart
  | textEnd
  | wordEdge
  | noWordEdge
  | wordStart
  | wordEnd
  | wordStartHalf
  | wordEndHalf
  deriving DecidableEq, Repr

/-- A pattern as written. -/
inductive Tree
  | empty
  | flags (change : FlagChange)
  /-- A character; `byte` marks a two-digit hexadecimal escape. -/
  | literal (c : Char) (byte : Bool)
  | dot
  | anchor (kind : Anchor)
  | shorthand (kind : Shorthand) (negated : Bool)
  | property (query : PropertyQuery) (negated : Bool)
  | bracketed (negated : Bool) (body : ClassTree)
  | repetition (least : Nat) (most : Option Nat) (greedy : Bool) (body : Tree)
  | capture (index : Nat) (body : Tree)
  | group (change : FlagChange) (body : Tree)
  | alternation (branches : List Tree)
  | sequence (items : List Tree)

/-- How deep classes are nested. -/
def ClassTree.depth : ClassTree → Nat
  | bracketed _ body => body.depth + 1
  | union [] => 0
  | union items => depths items + 1
  | op _ left right => max left.depth right.depth + 1
  | _ => 0
where
  depths : List ClassTree → Nat
    | [] => 0
    | t :: ts => max t.depth (depths ts)

/-- How deep groups, repetitions, lists and classes are nested. -/
def Tree.depth : Tree → Nat
  | bracketed _ body => body.depth + 1
  | repetition _ _ _ body => body.depth + 1
  | capture _ body => body.depth + 1
  | group _ body => body.depth + 1
  | alternation branches => depths branches + 1
  | sequence items => depths items + 1
  | _ => 0
where
  depths : List Tree → Nat
    | [] => 0
    | t :: ts => max t.depth (depths ts)

/-- A list of class items as one: a single item stands for itself. -/
def ClassTree.ofItems : List ClassTree → ClassTree
  | [t] => t
  | ts => .union ts

/-- A list of items as one tree: a single item stands for itself, none for the empty pattern. -/
def Tree.ofItems : List Tree → Tree
  | [] => .empty
  | [t] => t
  | ts => .sequence ts

end Cleave.Pattern
