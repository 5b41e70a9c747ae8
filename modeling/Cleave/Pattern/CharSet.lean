import Cleave.Text.Case

/-!
# Sets of characters

A set of code points is a list of closed ranges. Every operation returns its ranges in order, disjoint and
not adjacent. A complement is taken in a universe of code points `0 … top`.
-/

namespace Cleave.Pattern

/-- A set of code points as closed ranges. -/
structure CharSet where
  ranges : List (Nat × Nat)
  deriving Inhabited, DecidableEq

namespace CharSet

/-- The largest code point. -/
def unicodeTop : Nat := 0x10FFFF

/-- The set without members. -/
def empty : CharSet := ⟨[]⟩

/-- The set of one character. -/
def single (c : Char) : CharSet := ⟨[(c.toNat, c.toNat)]⟩

/-- Merges a list of ranges from the left: `a … b` is the range being grown. -/
def mergeOnto (a b : Nat) : List (Nat × Nat) → List (Nat × Nat)
  | [] => [(a, b)]
  | (c, d) :: r => if c ≤ b + 1 then mergeOnto a (max b d) r else (a, b) :: mergeOnto c d r

/-- The set that the given ranges cover. -/
def ofRanges (ranges : List (Nat × Nat)) : CharSet :=
  match ranges.mergeSort (fun x y => decide (x.1 ≤ y.1)) with
  | [] => empty
  | (a, b) :: r => ⟨mergeOnto a b r⟩

/-- Members of either set. -/
def union (s t : CharSet) : CharSet :=
  ofRanges (s.ranges ++ t.ranges)

/-- The gaps that ordered ranges leave in `next … top`. -/
def gaps (top : Nat) : (next : Nat) → List (Nat × Nat) → List (Nat × Nat)
  | next, [] => if next ≤ top then [(next, top)] else []
  | next, (a, b) :: r => if next < a then (next, a - 1) :: gaps top (b + 1) r else gaps top (b + 1) r

/-- Code points of `0 … top` that are not members. -/
def compl (top : Nat) (s : CharSet) : CharSet :=
  ⟨gaps top 0 s.ranges⟩

/-- Members of both sets. -/
def inter (top : Nat) (s t : CharSet) : CharSet :=
  compl top (union (compl top s) (compl top t))

/-- Members of the first set that are not members of the second. -/
def diff (top : Nat) (s t : CharSet) : CharSet :=
  inter top s (compl top t)

/-- Members of exactly one of the two sets. -/
def symmDiff (top : Nat) (s t : CharSet) : CharSet :=
  diff top (union s t) (inter top s t)

/-- Looks a code point up among the ordered ranges with positions `lo … hi - 1`. -/
def memBetween (ranges : Array (Nat × Nat)) (n lo hi : Nat) : Bool :=
  if lo < hi then
    let mid := (lo + hi) / 2
    match ranges[mid]? with
    | none => false
    | some (a, b) =>
      if n < a then memBetween ranges n lo mid
      else if b < n then memBetween ranges n (mid + 1) hi
      else true
  else false
termination_by hi - lo

/-- Whether a code point lies in one of the ordered ranges. -/
def memRanges (ranges : Array (Nat × Nat)) (n : Nat) : Bool :=
  memBetween ranges n 0 ranges.size

/-- Whether the set has a member at all. -/
def isEmpty (s : CharSet) : Bool :=
  s.ranges.isEmpty

/-- Whether every member is an ASCII character. -/
def isAscii (s : CharSet) : Bool :=
  s.ranges.all fun r => r.2 ≤ 0x7F

/-- Pairs of different code points with one simple case folding, from folding pairs ordered by image. -/
def variantsOf : List (List (Nat × Nat)) → List (Nat × Nat)
  | [] => []
  | orbit :: r =>
    let members := match orbit with
      | [] => []
      | (_, image) :: _ => image :: orbit.map Prod.fst
    members.flatMap (fun c => (members.filter (· != c)).map fun d => (c, d)) ++ variantsOf r

/-- All pairs of different code points that have the same simple case folding. -/
def caseVariants : Array (Nat × Nat) :=
  let folded := Text.Case.foldRuns.flatMap fun run => run.members.map fun c => (c, run.image c)
  let ordered := folded.mergeSort fun x y => decide (x.2 ≤ y.2)
  (variantsOf (ordered.splitBy fun x y => x.2 == y.2)).toArray

/-- The set together with all case variants of its members. -/
def foldCase (s : CharSet) : CharSet :=
  let ranges := s.ranges.toArray
  let fresh := caseVariants.filterMap fun (c, d) => if memRanges ranges c then some (d, d) else none
  ofRanges (s.ranges ++ fresh.toList)

/-- The set together with the ASCII case variants of its ASCII members. -/
def foldAsciiCase (s : CharSet) : CharSet :=
  let shifted (lo hi : Nat) (move : Nat → Nat) : List (Nat × Nat) :=
    s.ranges.filterMap fun (a, b) =>
      let a := max a lo
      let b := min b hi
      if a ≤ b then some (move a, move b) else none
  ofRanges (s.ranges ++ shifted 0x41 0x5A (· + 32) ++ shifted 0x61 0x7A (· - 32))

end CharSet

end Cleave.Pattern
