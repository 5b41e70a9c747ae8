import Cleave.Pattern.Expr

/-!
# The size of a compiled pattern

A pattern counts as two automata over UTF-8 bytes: one reads forwards and notes the groups, the other reads
backwards. Both have to stay within one limit. This module gives their sizes in bytes without building them: a
state takes `stateSize` bytes, a transition of a branching state `edgeSize` more and an alternative `targetSize`
more. Branches that begin alike are put behind their common beginning first, and long lists of words are read without an
automaton.
-/

namespace Cleave.Pattern

/-- A range of bytes. -/
abbrev ByteRange := Nat × Nat

/-- Where a range of code points has to be cut so that the first part is one sequence of byte ranges: at the
last code point of a length of encoding, else at a multiple of a power of 64. -/
def cut? (a b : Nat) : Option Nat :=
  match [0x7F, 0x7FF, 0xFFFF].find? fun m => a ≤ m && m < b with
  | some m => some m
  | none =>
    if b ≤ 0x7F then none
    else [64, 4096, 262144].findSome? fun block =>
      if a / block == b / block then none
      else if a % block != 0 then some ((a / block + 1) * block - 1)
      else if b % block != block - 1 then some (b / block * block - 1)
      else none

/-- Cuts a range of code points into parts that are each one sequence of byte ranges. A range has few cuts,
and `fuel` bounds how deep they nest. -/
def cutRange : (fuel : Nat) → Nat → Nat → List (Nat × Nat)
  | 0, _, _ => []
  | fuel + 1, a, b =>
    if b < a then []
    else match cut? a b with
      | none => [(a, b)]
      | some c => cutRange fuel a c ++ cutRange fuel (c + 1) b

/-- The bytes of a code point. -/
def utf8Bytes (n : Nat) : List Nat :=
  (String.utf8EncodeChar (Char.ofNat n)).map UInt8.toNat

/-- The sequences of byte ranges of a set, in order. Surrogates have none. -/
def CharSet.byteSequences (s : CharSet) : List (List ByteRange) :=
  let characters := s.ranges.flatMap fun (a, b) => [(a, min b 0xD7FF), (max a 0xE000, b)]
  (characters.flatMap fun (a, b) => cutRange 32 a b).map fun (a, b) => (utf8Bytes a).zip (utf8Bytes b)

namespace Size

/-- Bytes of a state. -/
def stateSize : Nat := 32

/-- Bytes of a transition of a state that has any number of them. -/
def edgeSize : Nat := 8

/-- Bytes of an alternative of a state that consumes nothing. -/
def targetSize : Nat := 4

/-- Bytes of a fork into two alternatives. -/
def forkSize : Nat := stateSize + 2 * targetSize

/-- States of an automaton for a set, each given by its transitions to numbered states. -/
abbrev States := List (List (ByteRange × Nat))

/-- The number of a state; a state that is known already is shared. -/
def States.add (known : States) (state : List (ByteRange × Nat)) : Nat × States :=
  match known.idxOf? state with
  | some i => (known.length - i, known)
  | none => (known.length + 1, state :: known)

/-- Adds the states that read the given sequences, and gives the number of the first one. State `0` is the end;
no sequence is longer than `depth`. -/
def States.addSequences : (depth : Nat) → List (List ByteRange) → States → Nat × States
  | 0, _, known => (0, known)
  | depth + 1, sequences, known =>
    if sequences.all List.isEmpty then (0, known)
    else
      let groups := sequences.splitBy fun x y => x.head? == y.head?
      let (edges, known) := groups.foldl (fun (edges, known) group =>
        let (target, known) := addSequences depth (group.map (List.drop 1)) known
        match group.head?.bind List.head? with
        | some range => (edges ++ [(range, target)], known)
        | none => (edges, known)) (([] : List (ByteRange × Nat)), known)
      known.add edges

/-- The size of a set that is read forwards: states with equal transitions are shared. -/
def forwardSet (s : CharSet) : Nat :=
  let (_, states) := States.addSequences 4 s.byteSequences []
  stateSize + total (states.map fun state => stateSize + edgeSize * state.length)

/-- The length of the longest common beginning of two lists. -/
def commonStart : List ByteRange → List ByteRange → Nat
  | a :: r, b :: s => if a == b then commonStart r s + 1 else 0
  | _, _ => 0

/-- The size of sequences that are read backwards, without the states that join them: a sequence shares with
the one before it the states of their common beginning. -/
def backwardSequences : (before : List ByteRange) → List (List ByteRange) → Nat
  | _, [] => 0
  | before, s :: r =>
    stateSize * (s.length - commonStart before s) + targetSize + backwardSequences s r

/-- The size of a set that is read backwards. -/
def backwardSet (s : CharSet) : Nat :=
  2 * stateSize + backwardSequences [] s.byteSequences

/-- The only character of a set. -/
def only? (s : CharSet) : Option Nat :=
  match s.ranges with
  | [(a, b)] => if a == b then some a else none
  | _ => none

/-- The size of a set: a chain of states for a single character, one branching state for ASCII. -/
def ofSet (forward : Bool) (s : CharSet) : Nat :=
  match only? s with
  | some c => stateSize * (utf8Bytes c).length
  | none =>
    if s.isAscii then 2 * stateSize + edgeSize * s.ranges.length
    else if forward then forwardSet s
    else backwardSet s

/-- The text that an expression stands for, if it stands for one alone. -/
def text? : Expr → Option (List Nat)
  | .set s => (only? s).map fun c => [c]
  | .seq first second => do return (← text? first) ++ (← text? second)
  | _ => none

/-- The branches of an alternation. -/
def branches : Expr → List Expr
  | .alt first second => branches first ++ branches second
  | e => [e]

/-- What a sequence consists of. -/
def items : Expr → List Expr
  | .empty => []
  | .seq first second => items first ++ items second
  | e => [e]

/-- A sequence. -/
def sequence : List Expr → Expr
  | [] => .empty
  | [e] => e
  | e :: es => .seq e (sequence es)

/-- An alternation. -/
def alternation : List Expr → Expr
  | [] => .empty
  | [e] => e
  | e :: es => .alt e (alternation es)

/-- The parts of a sequence, where single characters next to each other are one part. -/
def units (e : Expr) : List Expr :=
  ((items e).splitBy fun a b => (text? a).isSome && (text? b).isSome).map sequence

/-- The common beginning of two lists of parts. -/
def commonUnits : List Expr → List Expr → List Expr
  | a :: as, b :: bs => if a = b then a :: commonUnits as bs else []
  | _, _ => []

/-- An alternation whose branches are all sequences of several parts has their common beginning before it. -/
def lifted (alternatives : List Expr) : Expr :=
  let parts := alternatives.map units
  let common := (parts.tail.foldl commonUnits (parts.headD []))
  if alternatives.length ≤ 1 || parts.any (·.length ≤ 1) || common.isEmpty then alternation alternatives
  else sequence (common ++ [alternation (parts.map fun p => sequence (p.drop common.length))])

/-- The branches of an expression, with the common beginnings in front of the alternations inside of them. -/
def liftedBranches : Expr → List Expr
  | .alt first second => liftedBranches first ++ liftedBranches second
  | .capture index body => [.capture index (lifted (liftedBranches body))]
  | .loop least most greedy body => [.loop least most greedy (lifted (liftedBranches body))]
  | .seq first second => [.seq (lifted (liftedBranches first)) (lifted (liftedBranches second))]
  | e => [e]

/-- Whether an expression is looked up in a list of words, for which there is no limit: a long alternation of texts. -/
def isWordList (e : Expr) : Bool :=
  let words := branches e
  3000 ≤ words.length && words.all fun word => (text? word).isSome

/-- An alternation of single characters, or of sets that are none, as one set. -/
def merged? (e : Expr) : Option CharSet := do
  let sets ← (branches e).mapM fun
    | .set s => some s
    | _ => none
  let single := sets.map fun s => (only? s).isSome
  if single.all id || single.all (!·) then some (sets.foldl CharSet.union .empty) else none

/-- The size of a tree of words in order, none of them longer than `depth`. -/
def ofWords : (depth : Nat) → List (List Nat) → Nat
  | 0, _ => 0
  | depth + 1, words =>
    let groups := (words.filter (!·.isEmpty)).splitBy fun x y => x.head? == y.head?
    let edges := if 2 ≤ groups.length then edgeSize * groups.length else 0
    if groups.isEmpty then 0
    else 2 * stateSize + targetSize + edges + total (groups.map fun g => ofWords depth (g.map (List.drop 1)))

/-- The size of an alternation of texts. -/
def ofTexts (forward : Bool) (texts : List (List Nat)) : Nat :=
  let words := texts.map fun t =>
    let bytes := t.flatMap utf8Bytes
    if forward then bytes else bytes.reverse
  let depth := (words.map List.length).foldl max 0
  stateSize + ofWords (depth + 1) (words.mergeSort fun x y => !decide (y < x))

/-- The size of a repetition whose body has size `body`. -/
def ofLoop (least : Nat) (most : Option Nat) (consumes : Bool) (body : Nat) : Nat :=
  match least, most with
  | 0, none => if consumes then forkSize + body else 2 * forkSize + stateSize + body
  | least, none => least * body + forkSize
  | 0, some 1 => forkSize + stateSize + body
  | least, some most =>
    if least == most then least * body
    else (if least == 0 then stateSize else least * body) + stateSize + (most - least) * (forkSize + body)

/-- The size of an expression; `branch` tells that it is a branch of an alternation. -/
def ofExpr (forward : Bool) : (branch : Bool) → Expr → Nat
  | branch, .alt first second =>
    let inner := ofExpr forward true first + ofExpr forward true second
    if branch then inner
    else
      match merged? (.alt first second), (branches (.alt first second)).mapM text? with
      | some s, _ => ofSet forward s
      | none, some texts => ofTexts forward texts
      | none, none => 2 * stateSize + inner
  | branch, e =>
    let link := if branch then targetSize else 0
    link + match e with
      | .empty => stateSize
      | .set s => ofSet forward s
      | .look _ => stateSize
      | .capture _ body => (if forward then 2 * stateSize else 0) + ofExpr forward false body
      | .loop least most _ body => ofLoop least most body.consumes (ofExpr forward false body)
      | .seq .empty second => ofExpr forward false second
      | .seq first .empty => ofExpr forward false first
      | .seq first second => ofExpr forward false first + ofExpr forward false second
      | .alt _ _ => 0

/-- What an automaton takes besides its expression: the loop that moves the start of a match, and the end. -/
def frameSize : Nat := forkSize + 2 * stateSize + edgeSize + stateSize

end Size

/-- The size of the larger of the two automata of an expression. -/
def Expr.size (e : Expr) : Nat :=
  let e := Size.lifted (Size.liftedBranches e)
  if Size.isWordList e then 0
  else Size.frameSize + max (2 * Size.stateSize + Size.ofExpr true false e) (Size.ofExpr false false e)

end Cleave.Pattern
