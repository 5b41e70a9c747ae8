import Cleave.Pattern.Property
import Cleave.Pattern.Tree

/-!
# Expressions

The meaning of a pattern tree: flags are resolved, classes are sets of characters, and repetitions that say
nothing are gone. What is left are the constructors of `Expr`.
-/

namespace Cleave.Pattern

/-- A condition on the characters before and after a position. -/
inductive Look
  | start
  | stop
  | lineStart (crlf : Bool)
  | lineStop (crlf : Bool)
  | word (kind : Anchor) (unicode : Bool)
  deriving DecidableEq, Repr

/-- What a pattern matches. -/
inductive Expr
  | empty
  | set (s : CharSet)
  | look (l : Look)
  | capture (index : Nat) (body : Expr)
  | loop (least : Nat) (most : Option Nat) (greedy : Bool) (body : Expr)
  | seq (first second : Expr)
  | alt (first second : Expr)
  deriving DecidableEq

namespace Expr

/-- Whether every match has at least one character. -/
def consumes : Expr → Bool
  | empty => false
  | set _ => true
  | look _ => false
  | capture _ body => body.consumes
  | loop least _ _ body => least != 0 && body.consumes
  | seq first second => first.consumes || second.consumes
  | alt first second => first.consumes && second.consumes

/-- Whether every match is empty. -/
def onlyEmpty : Expr → Bool
  | empty => true
  | set _ => false
  | look _ => true
  | capture _ body => body.onlyEmpty
  | loop _ most _ body => most == some 0 || body.onlyEmpty
  | seq first second => first.onlyEmpty && second.onlyEmpty
  | alt first second => first.onlyEmpty && second.onlyEmpty

/-- A repetition: none at all is empty, exactly one is the body, and a body that only matches the empty text
is repeated at most once. -/
def repeated (least : Nat) (most : Option Nat) (greedy : Bool) (body : Expr) : Expr :=
  let (least, most) := if body.onlyEmpty then (min least 1, some (min (most.getD 1) 1)) else (least, most)
  if most == some 0 then empty
  else if least == 1 && most == some 1 then body
  else loop least most greedy body

/-- The number of groups, the whole match included. -/
def groups : Expr → Nat
  | empty | set _ | look _ => 1
  | capture index body => max (index + 1) body.groups
  | loop _ _ _ body => body.groups
  | seq first second => max first.groups second.groups
  | alt first second => max first.groups second.groups

end Expr

/-- The flags in force at a place of a pattern. -/
structure Flags where
  ignoreCase : Bool := false
  multiLine : Bool := false
  dotAll : Bool := false
  swapGreed : Bool := false
  unicode : Bool := true
  crlf : Bool := false

/-- Sets one flag. The verbose flag concerns reading only. -/
def Flags.set (f : Flags) : Flag × Bool → Flags
  | (.ignoreCase, on) => { f with ignoreCase := on }
  | (.multiLine, on) => { f with multiLine := on }
  | (.dotAll, on) => { f with dotAll := on }
  | (.swapGreed, on) => { f with swapGreed := on }
  | (.unicode, on) => { f with unicode := on }
  | (.crlf, on) => { f with crlf := on }
  | (.verbose, _) => f

/-- Applies a change of flags. -/
def Flags.apply (f : Flags) (change : FlagChange) : Flags :=
  change.foldl Flags.set f

/-- The largest code point of classes: all of Unicode, or a byte. -/
def Flags.top (f : Flags) : Nat :=
  if f.unicode then CharSet.unicodeTop else 0xFF

/-- Adds case variants if case is ignored. -/
def Flags.fold (f : Flags) (s : CharSet) : CharSet :=
  if f.ignoreCase then (if f.unicode then s.foldCase else s.foldAsciiCase) else s

/-- The set itself or its complement. -/
def Flags.negate (f : Flags) (negated : Bool) (s : CharSet) : CharSet :=
  if negated then s.compl f.top else s

/-- A class as it stands: with bytes only ASCII may match. -/
def Flags.checked (f : Flags) (s : CharSet) : Except Fault CharSet :=
  if f.unicode || s.isAscii then .ok s else .error .notUtf8

/-- The set of a shorthand class. -/
def Shorthand.set (f : Flags) (kind : Shorthand) (negated : Bool) : Except Fault CharSet :=
  f.checked <| f.negate negated <| match kind with
    | .digit => if f.unicode then Property.digit else Property.asciiDigit
    | .space => if f.unicode then Property.space else Property.asciiSpace
    | .word => if f.unicode then Property.word else Property.asciiWord

/-- The set of a property. -/
def PropertyQuery.set (f : Flags) (query : PropertyQuery) (negated : Bool) : Except Fault CharSet := do
  if !f.unicode then .error .notUtf8
  let (found, negated) := match query with
    | .named name => (Property.named name, negated)
    | .valued name value equal => (Property.valued name value, negated != !equal)
  match found with
  | none => .error .unknownProperty
  | some s => return f.negate negated (f.fold s)

/-- The set of a class. Both sides of an operation have their case variants added before it. -/
def ClassTree.set (f : Flags) : ClassTree → Except Fault CharSet
  | literal c => if f.unicode || c.toNat < 128 then .ok (.single c) else .error .notUtf8
  | range a b =>
    if f.unicode || b.toNat < 128 then .ok ⟨[(a.toNat, b.toNat)]⟩ else .error .notUtf8
  | ascii name negated => f.checked (f.negate negated (f.fold ((Property.asciiClass name).getD .empty)))
  | shorthand kind negated => kind.set f negated
  | property query negated => query.set f negated
  | bracketed negated body => do f.checked (f.negate negated (f.fold (← body.set f)))
  | union items => sets f items
  | op kind left right => do
    let l := f.fold (← left.set f)
    let r := f.fold (← right.set f)
    return match kind with
      | .inter => CharSet.inter f.top l r
      | .diff => CharSet.diff f.top l r
      | .symmDiff => CharSet.symmDiff f.top l r
where
  sets (f : Flags) : List ClassTree → Except Fault CharSet
    | [] => .ok .empty
    | t :: ts => do return (← t.set f).union (← sets f ts)

/-- The set of a literal character. -/
def literalSet (f : Flags) (c : Char) (byte : Bool) : Except Fault CharSet :=
  if !f.unicode && byte && 0x7F < c.toNat && c.toNat ≤ 0xFF then .error .notUtf8
  else .ok (f.fold (.single c))

/-- The set of the dot. -/
def dotSet (f : Flags) : Except Fault CharSet :=
  if !f.unicode then .error .notUtf8
  else if f.dotAll then .ok ⟨[(0, CharSet.unicodeTop)]⟩
  else if f.crlf then .ok (CharSet.compl CharSet.unicodeTop ⟨[(0x0A, 0x0A), (0x0D, 0x0D)]⟩)
  else .ok (CharSet.compl CharSet.unicodeTop ⟨[(0x0A, 0x0A)]⟩)

/-- The condition of an anchor. -/
def Anchor.look (f : Flags) : Anchor → Look
  | .lineStart => if f.multiLine then .lineStart f.crlf else .start
  | .lineEnd => if f.multiLine then .lineStop f.crlf else .stop
  | .textStart => .start
  | .textEnd => .stop
  | kind => .word kind f.unicode

/-- The meaning of a tree, with the flags in force after it. -/
def Tree.expr (f : Flags) : Tree → Except Fault (Expr × Flags)
  | empty => .ok (.empty, f)
  | flags change => .ok (.empty, f.apply change)
  | literal c byte => do return (.set (← literalSet f c byte), f)
  | dot => do return (.set (← dotSet f), f)
  | anchor kind => .ok (.look (kind.look f), f)
  | shorthand kind negated => do return (.set (← kind.set f negated), f)
  | property query negated => do return (.set (← query.set f negated), f)
  | bracketed negated body => do
    return (.set (← f.checked (f.negate negated (f.fold (← body.set f)))), f)
  | repetition least most greedy body => do
    let (e, g) ← body.expr f
    return (.repeated least most (greedy != g.swapGreed) e, g)
  | capture index body => do
    let (e, _) ← body.expr f
    return (.capture index e, f)
  | group change body => do
    let (e, _) ← body.expr (f.apply change)
    return (e, f)
  | alternation branches => alternatives f branches
  | sequence items => sequenceOf f items
where
  alternatives (f : Flags) : List Tree → Except Fault (Expr × Flags)
    | [] => .ok (.empty, f)
    | [t] => t.expr f
    | t :: ts => do
      let (e, f) ← t.expr f
      let (es, f) ← alternatives f ts
      return (.alt e es, f)
  sequenceOf (f : Flags) : List Tree → Except Fault (Expr × Flags)
    | [] => .ok (.empty, f)
    | [t] => t.expr f
    | t :: ts => do
      let (e, f) ← t.expr f
      let (es, f) ← sequenceOf f ts
      return (.seq e es, f)

end Cleave.Pattern
