/-!
# Totals

The sum of a list of counts. The total of two lists together is the sum of their totals, so a length that is counted
part by part is the length of the whole.
-/

namespace Cleave

/-- The sum of counts. -/
def total (ns : List Nat) : Nat :=
  ns.foldr (· + ·) 0

@[simp]
theorem total_nil : total [] = 0 := rfl

@[simp]
theorem total_cons (n : Nat) (ns : List Nat) : total (n :: ns) = n + total ns := rfl

@[simp]
theorem total_append (ms ns : List Nat) : total (ms ++ ns) = total ms + total ns := by
  induction ms with
  | nil => simp
  | cons m ms ih => simp [ih, Nat.add_assoc]

end Cleave
