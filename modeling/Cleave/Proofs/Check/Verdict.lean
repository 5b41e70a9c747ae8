import Cleave.Check.Outcome
import Mathlib.Data.List.Chain

/-!
# Clean verdicts

A verdict is clean if both checks finished and the second is no worse than the first (`compare_eq_clean_iff`). Being
no worse is reflexive on finished checks and transitive, so in a chain of runs that are clean one by one every check is
no worse than every earlier one (`pairwise_clean`).
-/

namespace Cleave

namespace CheckOutcome

/-- The check finished. -/
def IsFinished (o : CheckOutcome) : Prop :=
  ∀ reason, o ≠ unknown reason

/-- The second check is no worse than the first: both finished, it reports no more diagnostics, and it did not fail
where the first passed. -/
structure NoWorse (before after : CheckOutcome) : Prop where
  before_finished : before.IsFinished
  after_finished : after.IsFinished
  bounded : ∀ b a, before.diagnostics? = some b → after.diagnostics? = some a → a ≤ b
  kept : ¬ (before.isPassed = true ∧ after.isPassed = false)

theorem isFinished_iff {o : CheckOutcome} : o.IsFinished ↔ ∃ n, o.diagnostics? = some n := by
  cases o with
  | passed n => simp [IsFinished, diagnostics?]
  | failed n => simp [IsFinished, diagnostics?]
  | unknown reason => simp [IsFinished, diagnostics?]

variable {before after o a b c : CheckOutcome}

theorem NoWorse.refl (finished : o.IsFinished) : o.NoWorse o := by
  refine ⟨finished, finished, ?_, ?_⟩
  · intro n m first second
    rw [first] at second
    cases second
    exact Nat.le_refl n
  · rintro ⟨passed, failed⟩
    rw [passed] at failed
    cases failed

theorem NoWorse.trans (first : a.NoWorse b) (second : b.NoWorse c) : a.NoWorse c := by
  refine ⟨first.before_finished, second.after_finished, ?_, ?_⟩
  · intro n k counted counted'
    obtain ⟨m, between⟩ := isFinished_iff.mp first.after_finished
    exact (second.bounded m k between counted').trans (first.bounded n m counted between)
  · rintro ⟨passed, failed⟩
    cases between : b.isPassed with
    | true => exact second.kept ⟨between, failed⟩
    | false => exact first.kept ⟨passed, between⟩

end CheckOutcome

namespace Verdict

open CheckOutcome

variable {before after o a b c : CheckOutcome}

/-- A verdict is clean exactly if the second check is no worse than the first. -/
theorem compare_eq_clean_iff : compare before after = .clean ↔ before.NoWorse after := by
  constructor
  · intro clean
    unfold compare at clean
    split at clean
    · rename_i b a counted counted'
      split at clean
      · cases clean
      · rename_i kept
        split at clean
        · cases clean
        · rename_i bounded
          refine ⟨isFinished_iff.mpr ⟨b, counted⟩, isFinished_iff.mpr ⟨a, counted'⟩, ?_, ?_⟩
          · intro b' a' again again'
            cases counted.symm.trans again
            cases counted'.symm.trans again'
            omega
          · simpa using kept
    · cases clean
  · intro better
    obtain ⟨b, counted⟩ := isFinished_iff.mp better.before_finished
    obtain ⟨a, counted'⟩ := isFinished_iff.mp better.after_finished
    have kept : (before.isPassed && !after.isPassed) = false := by simpa using better.kept
    have bounded : ¬ b < a := Nat.not_lt.mpr (better.bounded b a counted counted')
    simp [compare, counted, counted', kept, bounded]

theorem compare_self (finished : o.IsFinished) : compare o o = .clean :=
  compare_eq_clean_iff.mpr (.refl finished)

theorem clean_trans (first : compare a b = .clean) (second : compare b c = .clean) : compare a c = .clean :=
  compare_eq_clean_iff.mpr ((compare_eq_clean_iff.mp first).trans (compare_eq_clean_iff.mp second))

/-- In a chain of runs that are clean one by one, any two checks in order are clean. -/
theorem pairwise_clean {outcomes : List CheckOutcome} (chain : outcomes.IsChain fun a b => compare a b = .clean) :
    outcomes.Pairwise fun a b => compare a b = .clean := by
  have : Trans (fun a b => compare a b = .clean) (fun a b => compare a b = .clean) (fun a b => compare a b = .clean) :=
    ⟨clean_trans⟩
  exact chain.pairwise

end Verdict

end Cleave
