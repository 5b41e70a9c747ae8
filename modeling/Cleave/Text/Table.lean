/-!
# Number tables

Large tables of numbers are written as text: numbers in base 36, separated by blanks, with a leading
`-` for a negative number. This module reads such a table back.
-/

namespace Cleave.Text.Table

/-- The value of a base-36 digit. -/
def digit (c : Char) : Nat :=
  if c.isDigit then c.toNat - '0'.toNat else c.toNat - 'a'.toNat + 10

/-- State of the reader: the numbers so far, and the number being read. -/
structure Reader where
  numbers : Array Int := #[]
  negative : Bool := false
  value : Option Nat := none

/-- Ends the number being read. -/
def Reader.flush (r : Reader) : Array Int :=
  match r.value with
  | none => r.numbers
  | some n => r.numbers.push (if r.negative then -(Int.ofNat n) else Int.ofNat n)

/-- Takes in one character of the table. -/
def Reader.feed (r : Reader) (c : Char) : Reader :=
  if c == '-' then { r with negative := true }
  else if c == ' ' || c == '\n' then { numbers := r.flush }
  else { r with value := some (r.value.getD 0 * 36 + digit c) }

/-- The numbers of a table, in order. -/
def numbers (table : String) : List Int :=
  (table.toList.foldl Reader.feed {}).flush.toList

/-- Numbers taken in pairs; a number without a partner is dropped. -/
def pairs : List Int → List (Int × Int)
  | a :: b :: r => (a, b) :: pairs r
  | _ => []

/-- Numbers taken four at a time. -/
def quadruples : List Int → List (Int × Int × Int × Int)
  | a :: b :: c :: d :: r => (a, b, c, d) :: quadruples r
  | _ => []

/-- Closed ranges from a table that gives, for each range, the gap before it and its length. -/
def rangesFrom : (next : Nat) → List (Int × Int) → List (Nat × Nat)
  | _, [] => []
  | next, (gap, length) :: r =>
    let first := next + gap.toNat
    let last := first + length.toNat - 1
    (first, last) :: rangesFrom (last + 1) r

/-- The closed ranges that a table of gaps and lengths describes. -/
def ranges (table : String) : List (Nat × Nat) :=
  rangesFrom 0 (pairs (numbers table))

end Cleave.Text.Table
