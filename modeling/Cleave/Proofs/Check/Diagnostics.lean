import Cleave.Proofs.Text.Substance
import Cleave.Shell.Checker

/-!
# Counting diagnostics

The two streams of a finished command are read as one text. If the first does not stop at the end of a line, its last
line and the first line of the second become one line, which matches for itself: only this line can make the count
differ from the matching lines of the streams (`hits_append`). So diagnostics are counted per stream exactly if the
line at the seam matches as often as its two parts do (`counts_streams_iff`), and a command that leaves its last line
open can hide a diagnostic or make one up (`seam_miscounts`).
-/

namespace Cleave

namespace Text

/-- What follows the last line feed of a text. -/
def openLine (t : Text) : Text :=
  (t.reverse.takeWhile (· != '\n')).reverse

/-- The first line of a text, with its line feed if it has one. -/
def firstLine (t : Text) : Text :=
  (lines t).headD []

theorem openLine_append {u x : Text} (ends : EndsLine u) (free : '\n' ∉ x) : openLine (u ++ x) = x := by
  have inside : ∀ c ∈ x.reverse, (c != '\n') = true := by
    intro c member
    have differs : c ≠ '\n' := fun feed => free (feed ▸ List.mem_reverse.mp member)
    simpa using differs
  have stops : u.reverse.takeWhile (· != '\n') = [] := by
    rcases ends with rfl | feed
    · rfl
    · obtain ⟨v, rfl⟩ := List.getLast?_eq_some_iff.mp feed
      simp
  rw [openLine, List.reverse_append, List.takeWhile_append_of_pos inside, stops, List.append_nil, List.reverse_reverse]

/-- A text without a line feed goes on in the first line of what follows it. -/
theorem lines_append_of_free {x t l : Text} {ls : List Text} (free : '\n' ∉ x) (cut : lines t = l :: ls) :
    lines (x ++ t) = (x ++ l) :: ls := by
  induction x with
  | nil => exact cut
  | cons c x ih =>
    have differs : c ≠ '\n' := fun feed => free (by simp [feed])
    have below : '\n' ∉ x := fun feed => free (List.mem_cons_of_mem c feed)
    rw [List.cons_append, lines, if_neg differs, ih below]
    rfl

/-- A line is the only line of itself. -/
theorem lines_of_cut {t l : Text} {ls : List Text} (cut : lines t = l :: ls) : lines l = [l] := by
  have lined : Lined ([l] ++ ls) := by
    rw [List.singleton_append, ← cut]
    exact lined_lines t
  simpa using lines_flatten lined.left

end Text

namespace Pattern

open Text

variable (p : Pattern)

/-- The number of lines of a text that the pattern matches. -/
def hits (t : Text) : Nat :=
  (shownLines t).countP p.occursIn

theorem hits_eq (t : Text) : p.hits t = (lines t).countP fun l => p.occursIn (chomp l) := by
  rw [hits, shownLines, List.countP_map]
  rfl

@[simp] theorem hits_nil : p.hits [] = 0 := rfl

theorem hits_append_of_endsLine {t : Text} (ends : EndsLine t) (u : Text) : p.hits (t ++ u) = p.hits t + p.hits u := by
  rw [hits_eq, hits_eq, hits_eq, lines_append ends, List.countP_append]

/-- Text before the first line of another changes the match of this line alone. -/
theorem hits_append_of_free {x : Text} (free : '\n' ∉ x) (t : Text) :
    p.hits (x ++ t) + p.hits (firstLine t) = p.hits (x ++ firstLine t) + p.hits t := by
  cases cut : lines t with
  | nil =>
    obtain rfl := lines_eq_nil.mp cut
    rfl
  | cons l ls =>
    have first : firstLine t = l := by rw [firstLine, cut, List.headD_cons]
    have alone := lines_of_cut cut
    rw [first, hits_eq p (x ++ t), hits_eq p l, hits_eq p (x ++ l), hits_eq p t, lines_append_of_free free cut,
      lines_append_of_free free alone, alone, cut]
    simp only [List.countP_cons, List.countP_nil]
    omega

/-- Two texts that are read as one have the matching lines of both, but for the line at the seam, which takes the
place of its two parts. -/
theorem hits_append (t u : Text) :
    p.hits (t ++ u) + (p.hits (openLine t) + p.hits (firstLine u)) =
      p.hits t + p.hits u + p.hits (openLine t ++ firstLine u) := by
  obtain ⟨v, x, rfl, ends, free⟩ := exists_last_line t
  have joined := hits_append_of_free p free u
  rw [openLine_append ends free, List.append_assoc, hits_append_of_endsLine p ends, hits_append_of_endsLine p ends]
  omega

end Pattern

namespace CheckCommand

variable {c : CheckCommand} {p : Pattern}

theorem diagnostics?_outcome (c : CheckCommand) (f : Finished) :
    (c.outcome f).diagnostics? = some (c.countDiagnostics f) := by
  rw [outcome]
  split <;> rfl

theorem countDiagnostics_eq (given : c.diagnostic = some p) (f : Finished) :
    c.countDiagnostics f = p.hits (f.output ++ f.errors) := by
  rw [countDiagnostics, given, Pattern.hits, List.countP_eq_length_filter]

/-- When the outcome of a command has the matching lines of its first stream and of its second: exactly if the line at
the seam matches as often as its two parts do. This is so if the first stream stops at the end of a line, or if the
second is empty. -/
theorem counts_streams_iff (given : c.diagnostic = some p) (f : Finished) :
    ((c.outcome f).diagnostics? = some (p.hits f.output + p.hits f.errors) ↔
      p.hits (Text.openLine f.output ++ Text.firstLine f.errors) =
        p.hits (Text.openLine f.output) + p.hits (Text.firstLine f.errors)) ∧
    (Text.EndsLine f.output ∨ f.errors = [] →
      (c.outcome f).diagnostics? = some (p.hits f.output + p.hits f.errors)) := by
  have seam := p.hits_append f.output f.errors
  have counted : (c.outcome f).diagnostics? = some (p.hits (f.output ++ f.errors)) := by
    rw [diagnostics?_outcome, countDiagnostics_eq given]
  rw [counted, Option.some_inj]
  refine ⟨by omega, ?_⟩
  rintro (ends | none)
  · exact p.hits_append_of_endsLine ends f.errors
  · rw [none, List.append_nil, p.hits_nil, Nat.add_zero]

/-- Lines that report an error. -/
def errorLine : Pattern :=
  (Pattern.compile false "error".toList).toOption.get (by decide +kernel)

/-- A command that prints to both streams, and counts the lines that report an error. -/
def printing (output errors : String) : CheckCommand where
  program := "sh".toList
  arguments := ["-c".toList, ("printf '" ++ output ++ "'; printf '" ++ errors ++ "' >&2").toList]
  timeoutMillis := 10000
  diagnostic := some errorLine
  workingDir := none

/-- The outcome of a command that is run in an empty directory. -/
def outcomeOf (c : CheckCommand) : CheckOutcome :=
  ((Shell.check c ⟨['.']⟩).run { disk := {} }).1

theorem counts_streams_iff_sample :
    let f : Finished := ⟨true, "error\nnote\n".toList, "error".toList⟩
    outcomeOf (printing "error\\nnote\\n" "error") = (printing "error\\nnote\\n" "error").outcome f ∧
      errorLine.hits f.output = 1 ∧ errorLine.hits f.errors = 1 ∧
      ((printing "error\\nnote\\n" "error").outcome f).diagnostics? = some 2 := by
  intro f
  have stops : Text.EndsLine f.output := .inr (by decide)
  have output : errorLine.hits f.output = 1 := by decide +kernel
  have errors : errorLine.hits f.errors = 1 := by decide +kernel
  have counted := (counts_streams_iff (c := printing "error\\nnote\\n" "error") rfl f).2 (.inl stops)
  rw [output, errors] at counted
  exact ⟨by decide +kernel, output, errors, counted⟩

/-- A command that leaves its last line open on the first stream is miscounted: of two lines that report an error it
hides one, and of two lines that report none it makes up one that does. -/
theorem seam_miscounts :
    (outcomeOf (printing "error" "error") = .passed 1 ∧
      errorLine.hits "error".toList + errorLine.hits "error".toList = 2) ∧
    outcomeOf (printing "err" "or") = .passed 1 ∧ errorLine.hits "err".toList + errorLine.hits "or".toList = 0 := by
  decide +kernel

end CheckCommand

end Cleave
