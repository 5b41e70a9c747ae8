import Cleave.Text.Basic

/-!
# Lines of a text

Cutting a text into lines loses nothing, and lines that may stand one after the other (`Lined`) are exactly the
lines of the text they are joined to. A text that stops at the end of a line can be cut apart from what follows.
-/

namespace Cleave.Text

/-- Lines that may stand one after the other: each ends with its only line feed, except that the last one may
have none and is not empty then. -/
inductive Lined : List Text → Prop
  | nil : Lined []
  | last {l : Text} (filled : l ≠ []) (free : '\n' ∉ l) : Lined [l]
  | cons {x : Text} {ls : List Text} (free : '\n' ∉ x) (rest : Lined ls) : Lined ((x ++ ['\n']) :: ls)

/-- A text that is empty or stops at the end of a line. -/
def EndsLine (t : Text) : Prop :=
  t = [] ∨ t.getLast? = some '\n'

theorem endsLine_nil : EndsLine [] := .inl rfl

theorem endsLine_feed (t : Text) : EndsLine (t ++ ['\n']) := .inr (by simp)

theorem EndsLine.append {t u : Text} (left : EndsLine t) (right : EndsLine u) : EndsLine (t ++ u) := by
  rcases right with rfl | feed
  · rwa [List.append_nil]
  · exact .inr (by simp [List.getLast?_append, feed])

theorem flatten_lines (t : Text) : (lines t).flatten = t := by
  induction t with
  | nil => rfl
  | cons c r ih =>
    simp only [lines]
    split
    · simp [ih]
    · cases cut : lines r with
      | nil =>
        rw [cut] at ih
        rw [← ih]
        rfl
      | cons l ls =>
        rw [cut] at ih
        rw [← ih]
        rfl

theorem lines_eq_nil {t : Text} : lines t = [] ↔ t = [] := by
  constructor
  · intro none
    rw [← flatten_lines t, none, List.flatten_nil]
  · rintro rfl
    rfl

theorem lined_lines (t : Text) : Lined (lines t) := by
  induction t with
  | nil => exact .nil
  | cons c r ih =>
    simp only [lines]
    split
    · rename_i feed
      subst feed
      exact Lined.cons (x := []) (by simp) ih
    · rename_i other
      have differs : '\n' ≠ c := fun same => other same.symm
      cases cut : lines r with
      | nil => exact .last (by simp) (by simpa using differs)
      | cons l ls =>
        rw [cut] at ih
        cases ih with
        | last filled free => exact .last (by simp) (by simp [differs, free])
        | @cons x _ free rest => exact Lined.cons (x := c :: x) (by simp [differs, free]) rest

/-- A line feed ends the line it stands in. -/
theorem lines_append_feed {x : Text} (free : '\n' ∉ x) (t : Text) :
    lines (x ++ '\n' :: t) = (x ++ ['\n']) :: lines t := by
  induction x with
  | nil => simp [lines]
  | cons c x ih =>
    simp only [List.mem_cons, not_or] at free
    rw [List.cons_append, lines, if_neg (fun same => free.1 same.symm), ih free.2]
    rfl

theorem lines_of_free {x : Text} (filled : x ≠ []) (free : '\n' ∉ x) : lines x = [x] := by
  induction x with
  | nil => exact absurd rfl filled
  | cons c x ih =>
    simp only [List.mem_cons, not_or] at free
    rw [lines, if_neg (fun same => free.1 same.symm)]
    cases x with
    | nil => rfl
    | cons d x => rw [ih (by simp) free.2]

/-- Lines that may stand one after the other are the lines of the text they are joined to. -/
theorem lines_flatten {ls : List Text} (lined : Lined ls) : lines ls.flatten = ls := by
  induction lined with
  | nil => rfl
  | last filled free => simpa using lines_of_free filled free
  | cons free rest ih =>
    rw [List.flatten_cons, List.append_assoc, List.singleton_append, lines_append_feed free, ih]

namespace Lined

/-- How a list of lines starts. -/
theorem cons_iff {l : Text} {ls : List Text} :
    Lined (l :: ls) ↔
      (ls = [] ∧ l ≠ [] ∧ '\n' ∉ l) ∨ ∃ x, '\n' ∉ x ∧ l = x ++ ['\n'] ∧ Lined ls := by
  constructor
  · intro lined
    cases lined with
    | last filled free => exact .inl ⟨rfl, filled, free⟩
    | cons free rest => exact .inr ⟨_, free, rfl, rest⟩
  · rintro (⟨rfl, filled, free⟩ | ⟨x, free, rfl, rest⟩)
    · exact .last filled free
    · exact .cons free rest

theorem right {ls ms : List Text} (lined : Lined (ls ++ ms)) : Lined ms := by
  induction ls with
  | nil => exact lined
  | cons l ls ih =>
    rcases cons_iff.mp lined with ⟨none, -, -⟩ | ⟨x, -, -, rest⟩
    · rw [(List.append_eq_nil_iff.mp none).2]
      exact .nil
    · exact ih rest

theorem left {ls ms : List Text} (lined : Lined (ls ++ ms)) : Lined ls := by
  induction ls with
  | nil => exact .nil
  | cons l ls ih =>
    rcases cons_iff.mp lined with ⟨none, filled, free⟩ | ⟨x, free, rfl, rest⟩
    · rw [(List.append_eq_nil_iff.mp none).1]
      exact .last filled free
    · exact .cons free (ih rest)

/-- Lines that have a line after them stop at the end of a line. -/
theorem endsLine_left {ls ms : List Text} (lined : Lined (ls ++ ms)) (more : ms ≠ []) :
    EndsLine ls.flatten := by
  induction ls with
  | nil => exact endsLine_nil
  | cons l ls ih =>
    rcases cons_iff.mp lined with ⟨none, -, -⟩ | ⟨x, -, rfl, rest⟩
    · exact absurd (List.append_eq_nil_iff.mp none).2 more
    · exact (endsLine_feed x).append (ih rest)

end Lined

/-- A run of lines that stand one after the other. -/
theorem Lined.run {ls ms : List Text} (lined : Lined ls) (inside : ms <:+: ls) : Lined ms := by
  obtain ⟨before, after, rfl⟩ := inside
  exact lined.left.right

/-- A text cut into lines: what the lines of a text are, told line by line. -/
structure IsLinesOf (t : Text) (ls : List Text) : Prop where
  whole : ls.flatten = t
  filled : ∀ l ∈ ls, l ≠ []
  /-- A line feed is the last character of its line. -/
  free : ∀ l ∈ ls, '\n' ∉ l.dropLast
  /-- Only the last line may have no line feed. -/
  fed : ∀ l ∈ ls.dropLast, l.getLast? = some '\n'

theorem Lined.isLinesOf {ls : List Text} (lined : Lined ls) : IsLinesOf ls.flatten ls := by
  induction lined with
  | nil => exact ⟨rfl, by simp, by simp, by simp⟩
  | last filled free =>
    have free' := fun member => free ((List.dropLast_sublist _).subset member)
    exact ⟨rfl, by simpa using filled, by simpa using free', by simp⟩
  | @cons x ls free _ ih =>
    refine ⟨rfl, List.forall_mem_cons.mpr ⟨by simp, ih.filled⟩,
      List.forall_mem_cons.mpr ⟨by simpa using free, ih.free⟩, ?_⟩
    cases ls with
    | nil => simp
    | cons l ls => exact List.forall_mem_cons.mpr ⟨by simp, ih.fed⟩

theorem IsLinesOf.tail {t l : Text} {ls : List Text} (cut : IsLinesOf t (l :: ls)) : IsLinesOf ls.flatten ls where
  whole := rfl
  filled := fun m member => cut.filled m (List.mem_cons_of_mem l member)
  free := fun m member => cut.free m (List.mem_cons_of_mem l member)
  fed := by
    cases ls with
    | nil => simp
    | cons m ls => exact fun k member => cut.fed k (List.mem_cons_of_mem l member)

theorem IsLinesOf.lined {t : Text} {ls : List Text} (cut : IsLinesOf t ls) : Lined ls := by
  induction ls generalizing t with
  | nil => exact .nil
  | cons l ls ih =>
    obtain ⟨x, c, rfl⟩ : ∃ x c, l = x ++ [c] :=
      ⟨_, _, (List.dropLast_concat_getLast (cut.filled l List.mem_cons_self)).symm⟩
    have free : '\n' ∉ x := by simpa using cut.free _ List.mem_cons_self
    by_cases feed : c = '\n'
    · subst feed
      exact .cons free (ih cut.tail)
    · -- A line without a line feed has no line after it.
      cases ls with
      | nil => exact .last (by simp) (by simp [free, Ne.symm feed])
      | cons m ls => exact absurd (by simpa using cut.fed (x ++ [c]) List.mem_cons_self) feed

/-- The lines of a text are the only way to cut it into lines. -/
theorem isLinesOf_iff {t : Text} {ls : List Text} : IsLinesOf t ls ↔ ls = lines t := by
  constructor
  · intro cut
    rw [← cut.whole, lines_flatten cut.lined]
  · rintro rfl
    simpa [flatten_lines] using (lined_lines t).isLinesOf

theorem endsLine_flatMap {α : Type} {f : α → Text} {as : List α} (each : ∀ a ∈ as, EndsLine (f a)) :
    EndsLine (as.flatMap f) := by
  induction as with
  | nil => exact endsLine_nil
  | cons a as ih =>
    rw [List.flatMap_cons]
    exact (each a (by simp)).append (ih fun b member => each b (by simp [member]))

theorem terminated_of_endsLine {t : Text} (ends : EndsLine t) (filled : t ≠ []) : terminated t = t := by
  rcases ends with none | feed
  · exact absurd none filled
  · exact if_pos feed

/-- A text that stops at the end of a line is cut apart from what follows it. -/
theorem lines_append {t : Text} (ends : EndsLine t) (u : Text) : lines (t ++ u) = lines t ++ lines u := by
  induction t with
  | nil => rfl
  | cons c r ih =>
    have below : EndsLine r := by
      cases r with
      | nil => exact endsLine_nil
      | cons d r => exact .inr (by simpa [EndsLine] using ends)
    simp only [List.cons_append, lines, ih below]
    split
    · rfl
    · cases cut : lines r with
      | cons l ls => rfl
      | nil =>
        rw [lines_eq_nil] at cut
        subst cut
        simp_all [EndsLine]

theorem join_cons_cons (sep : Char) (t u : Text) (ts : List Text) :
    join [sep] (t :: u :: ts) = t ++ sep :: join [sep] (u :: ts) := by
  rw [join, List.append_assoc, List.singleton_append]
  rintro ⟨⟩

theorem lines_flatMap {α : Type} {f : α → Text} {as : List α} (each : ∀ a ∈ as, EndsLine (f a)) :
    lines (as.flatMap f) = as.flatMap fun a => lines (f a) := by
  induction as with
  | nil => rfl
  | cons a as ih =>
    rw [List.flatMap_cons, lines_append (each a (by simp)), ih fun b member => each b (by simp [member]),
      List.flatMap_cons]

end Cleave.Text
