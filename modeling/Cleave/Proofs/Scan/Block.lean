import Cleave.Scan

/-!
# Blocks

The lines of a declaration from its first line to the line that closes it form a block. Whether lines close
depends on their text alone (`closes`), and the counters that a scan keeps for an open declaration are those of
the lines it has taken in (`OpenBody.Counts`).
-/

namespace Cleave

/-- Patterns to try statements on: `fn` starts a declaration and `all` the aggregator. -/
def ScanPatterns.sample : ScanPatterns where
  introducer := (Pattern.compile false "^fn ([a-z]+)".toList).toOption.get (by decide +kernel)
  aggregator := some ((Pattern.compile false "^all ([a-z]+)".toList).toOption.get (by decide +kernel))
  openChar := '\x7b'
  closeChar := '\x7d'
  closingMarker := "\x7d".toList

namespace Scan

theorem occursIn_iff {needle t : Text} : Text.occursIn needle t = true ↔ needle <:+: t := by
  induction t with
  | nil => simp [Text.occursIn]
  | cons c r ih => simp [Text.occursIn, ih, List.infix_cons_iff]

/-- What a character adds to the balance of the delimiters. -/
def weight (p : ScanPatterns) (c : Char) : Int :=
  if c = p.openChar then 1 else if c = p.closeChar then -1 else 0

/-- Opening minus closing delimiters of a text. -/
def excess (p : ScanPatterns) : Text → Int
  | [] => 0
  | c :: r => weight p c + excess p r

theorem excess_append (p : ScanPatterns) (t u : Text) : excess p (t ++ u) = excess p t + excess p u := by
  induction t with
  | nil => simp [excess]
  | cons c r ih =>
    simp only [List.cons_append, excess, ih]
    omega

/-- Delimiters that differ are counted apart. -/
theorem excess_eq_count {p : ScanPatterns} (differ : p.openChar ≠ p.closeChar) (t : Text) :
    excess p t = (t.count p.openChar : Int) - t.count p.closeChar := by
  induction t with
  | nil => rfl
  | cons c r ih =>
    simp only [excess, ih, List.count_cons, weight, beq_iff_eq]
    split
    · rename_i opening
      have other : c ≠ p.closeChar := fun closing => differ (opening.symm.trans closing)
      simp only [if_neg other]
      omega
    · split <;> omega

/-- Whether a declaration that consists of the given lines is closed on the last of them. -/
def closes (p : ScanPatterns) (ls : List Text) : Bool :=
  excess p ls.flatten == 0 && ls.flatten.contains p.openChar &&
    ls.getLast?.any (Text.occursIn p.closingMarker)

theorem closes_nil (p : ScanPatterns) : closes p [] = false := by
  simp [closes]

/-- The number of lines after which a declaration closes, if it does. -/
def blockLength? (p : ScanPatterns) (ls : List Text) : Option Nat :=
  (List.range (ls.length + 1)).find? fun k => closes p (ls.take k)

theorem blockLength?_eq_some {p : ScanPatterns} {ls : List Text} {k : Nat} :
    blockLength? p ls = some k ↔
      k ≤ ls.length ∧ closes p (ls.take k) = true ∧ ∀ j, j < k → closes p (ls.take j) = false := by
  simp only [blockLength?, List.find?_range_eq_some, List.mem_range, Bool.not_eq_true']
  constructor
  · rintro ⟨closed, below, before⟩
    exact ⟨by omega, closed, before⟩
  · rintro ⟨below, closed, before⟩
    exact ⟨closed, by omega, before⟩

theorem blockLength?_eq_none {p : ScanPatterns} {ls : List Text} :
    blockLength? p ls = none ↔ ∀ k, k ≤ ls.length → closes p (ls.take k) = false := by
  simp only [blockLength?, List.find?_range_eq_none, Bool.not_eq_true']
  constructor
  · intro never k below
    exact never k (by omega)
  · intro never k below
    exact never k (by omega)

theorem blockLength?_pos {p : ScanPatterns} {ls : List Text} {k : Nat} (found : blockLength? p ls = some k) :
    0 < k := by
  obtain ⟨-, closed, -⟩ := blockLength?_eq_some.mp found
  rcases Nat.eq_zero_or_pos k with rfl | positive
  · simp [closes_nil] at closed
  · exact positive

/-- Lines that close on their last line and not before. -/
structure IsBlock (p : ScanPatterns) (ls : List Text) : Prop where
  closed : closes p ls = true
  first : ∀ k, k < ls.length → closes p (ls.take k) = false

theorem isBlock_take {p : ScanPatterns} {ls : List Text} {k : Nat} (found : blockLength? p ls = some k) :
    IsBlock p (ls.take k) := by
  obtain ⟨below, closed, before⟩ := blockLength?_eq_some.mp found
  refine ⟨closed, fun j short => ?_⟩
  have small : j < k := by
    simp only [List.length_take] at short
    omega
  rw [List.take_take, Nat.min_eq_left (Nat.le_of_lt small)]
  exact before j small

/-- What follows a block does not matter for where it closes. -/
theorem IsBlock.blockLength?_append {p : ScanPatterns} {b : List Text} (block : IsBlock p b) (r : List Text) :
    blockLength? p (b ++ r) = some b.length := by
  refine blockLength?_eq_some.mpr ⟨by simp, by simpa using block.closed, fun j short => ?_⟩
  rw [List.take_append_of_le_length (Nat.le_of_lt short)]
  exact block.first j short

namespace OpenBody

/-- The counters of an open declaration are those of the lines taken in so far. -/
structure Counts (p : ScanPatterns) (b : OpenBody) (seen : List Text) : Prop where
  balance_eq : b.balance = excess p seen.flatten
  opened_eq : b.opened = seen.flatten.contains p.openChar

theorem countLine_eq (p : ScanPatterns) (b : OpenBody) (line : Text) :
    b.countLine p line =
      { b with balance := b.balance + excess p line, opened := b.opened || line.contains p.openChar } := by
  induction line generalizing b with
  | nil => simp [countLine, excess]
  | cons c r ih =>
    have counted : b.count p c =
        { b with balance := b.balance + weight p c, opened := b.opened || c == p.openChar } := by
      unfold count weight
      by_cases opening : c = p.openChar
      · simp [opening]
      · have different : (c == p.openChar) = false := by simpa using opening
        rw [if_neg opening, if_neg opening, different]
        split <;> simp [Int.sub_eq_add_neg]
    have next : b.countLine p (c :: r) = (b.count p c).countLine p r := rfl
    rw [next, ih, counted]
    simp only [excess, List.contains_cons, Int.add_assoc, Bool.or_assoc, BEq.comm (a := c)]

theorem countLine_append (p : ScanPatterns) (b : OpenBody) (t u : Text) :
    (b.countLine p t).countLine p u = b.countLine p (t ++ u) :=
  List.foldl_append.symm

theorem Counts.countLine {p : ScanPatterns} {b : OpenBody} {seen : List Text} (counts : b.Counts p seen)
    (ls : List Text) : (b.countLine p ls.flatten).Counts p (seen ++ ls) := by
  rw [countLine_eq]
  constructor
  · simp [counts.balance_eq, excess_append]
  · simp [counts.opened_eq]

theorem Counts.closesOn {p : ScanPatterns} {b : OpenBody} {seen : List Text} (counts : b.Counts p seen)
    (line : Text) : (b.countLine p line).closesOn p line = closes p (seen ++ [line]) := by
  have counted := counts.countLine [line]
  rw [List.flatten_singleton] at counted
  rw [OpenBody.closesOn, counted.balance_eq, counted.opened_eq, closes, List.getLast?_concat, Option.any_some]

theorem counts_nil (p : ScanPatterns) (name : Text) (first : Nat) (aggregates : Bool) :
    Counts p { name, first, aggregates } [] :=
  ⟨rfl, rfl⟩

end OpenBody

end Scan

end Cleave
