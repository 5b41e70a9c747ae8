import Mathlib.Data.List.Induction
import Cleave.Proofs.Text.Lines

/-!
# What a text says

Two texts say the same if their lines agree once blank lines are left out and no account is taken of line
terminators. Removing terminators around a text, as is done before it is put into another one, changes nothing
that it says (`substance_lines_trimOf`).
-/

namespace Cleave.Text

/-- The lines that are not blank, without the characters of line terminators at either end. -/
def substance (ls : List Text) : List Text :=
  (ls.map (trimOf isTerminator)).filter fun l => !isBlank l

theorem substance_append (ls ms : List Text) : substance (ls ++ ms) = substance ls ++ substance ms := by
  simp [substance]

theorem substance_cons (l : Text) (ls : List Text) : substance (l :: ls) = substance [l] ++ substance ls :=
  substance_append [l] ls

theorem substance_flatMap {α : Type} (f : α → List Text) (as : List α) :
    substance (as.flatMap f) = as.flatMap fun a => substance (f a) := by
  induction as with
  | nil => rfl
  | cons a as ih => rw [List.flatMap_cons, substance_append, ih, List.flatMap_cons]

theorem trimStartOf_of_front {p : Char → Bool} {t : Text} (front : ∀ c ∈ t.head?, p c = false) :
    trimStartOf p t = t := by
  cases t with
  | nil => rfl
  | cons c t => exact List.dropWhile_cons_of_neg (by simp [front c rfl])

theorem trimEndOf_of_back {p : Char → Bool} {t : Text} (back : ∀ c ∈ t.getLast?, p c = false) :
    trimEndOf p t = t := by
  have kept := trimStartOf_of_front (t := t.reverse) (by rwa [List.head?_reverse])
  rw [trimEndOf, ← trimStartOf, kept, List.reverse_reverse]

theorem trimOf_cons {p : Char → Bool} {c : Char} (drops : p c = true) (t : Text) :
    trimOf p (c :: t) = trimOf p t := by
  rw [trimOf, trimStartOf, List.dropWhile_cons_of_pos drops]
  rfl

theorem trimEndOf_concat {p : Char → Bool} {c : Char} (drops : p c = true) (t : Text) :
    trimEndOf p (t ++ [c]) = trimEndOf p t := by
  rw [trimEndOf, List.reverse_append, List.reverse_singleton, List.singleton_append,
    List.dropWhile_cons_of_pos drops]
  rfl

theorem trimOf_concat {p : Char → Bool} {c : Char} (drops : p c = true) (t : Text) :
    trimOf p (t ++ [c]) = trimOf p t := by
  rw [trimOf, trimOf, trimStartOf, List.dropWhile_append, trimStartOf]
  split
  · rename_i none
    rw [List.dropWhile_cons_of_pos drops, List.isEmpty_iff.mp none]
    rfl
  · exact trimEndOf_concat drops _

/-- What is kept when one character is dropped at either end is kept by trimming. -/
theorem trimOf_induction {p : Char → Bool} {motive : Text → Prop}
    (front : ∀ c u, p c = true → motive (c :: u) → motive u)
    (back : ∀ c u, p c = true → motive (u ++ [c]) → motive u) {t : Text} (holds : motive t) :
    motive (trimOf p t) := by
  have start : motive (trimStartOf p t) := by
    induction t with
    | nil => exact holds
    | cons c u ih =>
      rw [trimStartOf, List.dropWhile_cons]
      split
      · rename_i drops
        exact ih (front c u drops holds)
      · exact holds
  rw [trimOf]
  generalize trimStartOf p t = u at start ⊢
  induction u using List.reverseRecOn with
  | nil => exact start
  | append_singleton u c ih =>
    by_cases drops : p c = true
    · rw [trimEndOf_concat drops]
      exact ih (back c u drops start)
    · rwa [trimEndOf_of_back (by simpa using drops)]

theorem trimEndOf_leads (p : Char → Bool) (t : Text) : trimEndOf p t <+: t := by
  have tail : t.reverse.dropWhile p <:+ t.reverse := List.dropWhile_suffix p
  rwa [← List.reverse_prefix, List.reverse_reverse] at tail

theorem trimEndOf_subset (p : Char → Bool) (t : Text) : trimEndOf p t ⊆ t :=
  (trimEndOf_leads p t).subset

theorem trimOf_subset (p : Char → Bool) (t : Text) : trimOf p t ⊆ t := by
  intro c member
  exact (List.dropWhile_sublist p).subset (trimEndOf_subset p _ member)

theorem isBlank_of_subset {t u : Text} (inside : t ⊆ u) (blank : isBlank u = true) : isBlank t = true := by
  rw [isBlank, List.all_eq_true] at blank ⊢
  exact fun c member => blank c (inside member)

/-- Blank lines say nothing. -/
theorem substance_of_blank {ls : List Text} (blank : isBlank ls.flatten = true) : substance ls = [] := by
  rw [substance, List.filter_eq_nil_iff]
  intro t member
  obtain ⟨l, inside, rfl⟩ := List.mem_map.mp member
  have lineBlank : isBlank l = true :=
    isBlank_of_subset (fun c here => List.mem_flatten.mpr ⟨l, inside, here⟩) blank
  simp [isBlank_of_subset (trimOf_subset _ l) lineBlank]

theorem terminator_cases {c : Char} (terminator : isTerminator c = true) : c = '\n' ∨ c = '\r' := by
  simpa [isTerminator] using terminator

theorem substance_singleton_congr {l m : Text} (same : trimOf isTerminator l = trimOf isTerminator m) :
    substance [l] = substance [m] := by
  simp [substance, same]

theorem substance_lines_cons {c : Char} (terminator : isTerminator c = true) (t : Text) :
    substance (lines (c :: t)) = substance (lines t) := by
  simp only [lines]
  split
  · rename_i feed
    rw [substance_cons, feed, substance_of_blank (by decide), List.nil_append]
  · cases cut : lines t with
    | nil =>
      rcases terminator_cases terminator with rfl | rfl
      · exact substance_of_blank (by decide)
      · exact substance_of_blank (by decide)
    | cons l ls =>
      rw [substance_cons, substance_cons l, substance_singleton_congr (trimOf_cons terminator l)]

/-- A text is made of lines that end with a line feed and a rest without one. -/
theorem exists_last_line (t : Text) : ∃ u x, t = u ++ x ∧ EndsLine u ∧ '\n' ∉ x := by
  induction t using List.reverseRecOn with
  | nil => exact ⟨[], [], rfl, endsLine_nil, by simp⟩
  | append_singleton t c ih =>
    by_cases feed : c = '\n'
    · exact ⟨t ++ [c], [], by simp, feed ▸ endsLine_feed t, by simp⟩
    · obtain ⟨u, x, rfl, ends, free⟩ := ih
      refine ⟨u, x ++ [c], by simp, ends, ?_⟩
      simpa [free] using fun same => feed same.symm

theorem substance_lines_concat {c : Char} (terminator : isTerminator c = true) (t : Text) :
    substance (lines (t ++ [c])) = substance (lines t) := by
  obtain ⟨u, x, rfl, ends, free⟩ := exists_last_line t
  rw [List.append_assoc, lines_append ends, lines_append ends, substance_append, substance_append]
  congr 1
  have single : lines (x ++ [c]) = [x ++ [c]] := by
    rcases terminator_cases terminator with rfl | rfl
    · exact lines_append_feed free []
    · exact lines_of_free (by simp) (by simp [free])
  rw [single, substance_singleton_congr (trimOf_concat terminator x)]
  cases x with
  | nil => exact substance_of_blank rfl
  | cons d x => rw [lines_of_free (by simp) free]

/-- Line terminators around a text are no part of what it says. -/
theorem substance_lines_trimOf (t : Text) : substance (lines (trimOf isTerminator t)) = substance (lines t) := by
  refine trimOf_induction (motive := fun u => substance (lines u) = substance (lines t)) ?_ ?_ rfl
  · intro c u terminator same
    rw [← same, substance_lines_cons terminator]
  · intro c u terminator same
    rw [← same, substance_lines_concat terminator]

end Cleave.Text
