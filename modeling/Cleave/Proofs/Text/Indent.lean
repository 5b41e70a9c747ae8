import Cleave.Proofs.Text.Substance

/-!
# Indented text

Indentation goes line by line and leaves blank lines alone. An indent without line feeds keeps the cut into lines
(`lines_indented`), so it can be taken off again (`unindented_indented`) and makes no difference to the number of
lines. That number is the number of line feeds once the text is terminated (`length_lines_terminated`), and it adds up
over texts that are joined by empty lines (`length_lines_join`).
-/

namespace Cleave.Text

variable {indent t : Text}

/-- A line with `indent` before it, unless it is blank. -/
def indentLine (indent line : Text) : Text :=
  if isBlank line then line else indent ++ line

/-- A line without the characters of an indent, unless it is blank. -/
def unindentLine (indent line : Text) : Text :=
  if isBlank line then line else line.drop indent.length

/-- The text with an indent taken off every line that is not blank. -/
def unindented (indent t : Text) : Text :=
  (lines t).flatMap (unindentLine indent)

theorem indented_eq (indent t : Text) : indented indent t = (lines t).flatMap (indentLine indent) := rfl

theorem isBlank_feed (x : Text) : isBlank (x ++ ['\n']) = isBlank x := by
  rw [isBlank, List.all_append, isBlank]
  exact Bool.and_true _

/-- An indent does not make a line blank that was not. -/
theorem isBlank_indentLine (indent line : Text) : isBlank (indentLine indent line) = isBlank line := by
  rw [indentLine]
  split
  · rfl
  · rename_i filled
    rw [Bool.not_eq_true] at filled
    rw [isBlank, List.all_append, ← isBlank, ← isBlank, filled, Bool.and_false]

theorem unindentLine_indentLine (indent line : Text) : unindentLine indent (indentLine indent line) = line := by
  rw [unindentLine, isBlank_indentLine]
  split
  · rename_i blank
    exact if_pos blank
  · rename_i filled
    rw [indentLine, if_neg filled, List.drop_left]

theorem indentLine_feed (indent x : Text) : indentLine indent (x ++ ['\n']) = indentLine indent x ++ ['\n'] := by
  rw [indentLine, isBlank_feed, indentLine]
  split
  · rfl
  · rw [List.append_assoc]

theorem notMem_indentLine {x : Text} (plain : '\n' ∉ indent) (free : '\n' ∉ x) : '\n' ∉ indentLine indent x := by
  rw [indentLine]
  split
  · exact free
  · simp [plain, free]

theorem indentLine_ne_nil {x : Text} (filled : x ≠ []) : indentLine indent x ≠ [] := by
  rw [indentLine]
  split
  · exact filled
  · simp [filled]

/-- Lines that may stand one after the other may do so when they are indented. -/
theorem Lined.indented {ls : List Text} (plain : '\n' ∉ indent) (lined : Lined ls) :
    Lined (ls.map (indentLine indent)) := by
  induction lined with
  | nil => exact .nil
  | last filled free => exact .last (indentLine_ne_nil filled) (notMem_indentLine plain free)
  | cons free rest ih =>
    rw [List.map_cons, indentLine_feed]
    exact .cons (notMem_indentLine plain free) ih

/-- The lines of an indented text are the lines of the text, each indented. -/
theorem lines_indented (plain : '\n' ∉ indent) (t : Text) :
    lines (indented indent t) = (lines t).map (indentLine indent) := by
  rw [indented_eq, List.flatMap_def, lines_flatten ((lined_lines t).indented plain)]

/-- A line of an indented text that is not blank starts with the indent. -/
theorem indent_of_mem_lines {l : Text} (plain : '\n' ∉ indent) (member : l ∈ lines (indented indent t))
    (filled : isBlank l = false) : indent <+: l := by
  rw [lines_indented plain] at member
  obtain ⟨line, -, rfl⟩ := List.mem_map.mp member
  rw [isBlank_indentLine] at filled
  rw [indentLine, if_neg (by simp [filled])]
  exact List.prefix_append indent line

/-- Taking the indent off gives the text back. -/
theorem unindented_indented (plain : '\n' ∉ indent) (t : Text) : unindented indent (indented indent t) = t := by
  have each : (lines t).map (unindentLine indent ∘ indentLine indent) = lines t :=
    (List.map_congr_left fun l _ => unindentLine_indentLine indent l).trans (List.map_id _)
  rw [unindented, lines_indented plain, List.flatMap_def, List.map_map, each, flatten_lines]

/-! ## Terminated text -/

theorem getLast?_terminated (t : Text) : (terminated t).getLast? = some '\n' := by
  rw [terminated]
  split
  · rename_i feed
    exact feed
  · rw [List.getLast?_concat]

theorem endsLine_terminated (t : Text) : EndsLine (terminated t) :=
  .inr (getLast?_terminated t)

theorem endsLine_append_terminated (x t : Text) : EndsLine (x ++ terminated t) :=
  .inr (by rw [List.getLast?_append, getLast?_terminated, Option.some_or])

theorem terminated_append {u : Text} (t : Text) (filled : u ≠ []) : terminated (t ++ u) = t ++ terminated u := by
  have last : (t ++ u).getLast? = u.getLast? := by
    rw [List.getLast?_append, List.getLast?_eq_some_getLast filled, Option.some_or]
  rw [terminated, terminated, last]
  split
  · rfl
  · rw [List.append_assoc]

/-- The last line of a text, with or without its line feed. -/
theorem exists_final_line (filled : t ≠ []) :
    ∃ u x, EndsLine u ∧ '\n' ∉ x ∧ (t = u ++ (x ++ ['\n']) ∨ t = u ++ x ∧ x ≠ []) := by
  obtain ⟨v, c, rfl⟩ := (List.eq_nil_or_concat t).resolve_left filled
  obtain ⟨u, x, rfl, ends, free⟩ := exists_last_line v
  rw [List.concat_eq_append, List.append_assoc]
  by_cases feed : c = '\n'
  · exact ⟨u, x, ends, free, .inl (by rw [feed])⟩
  · refine ⟨u, x ++ [c], ends, ?_, .inr ⟨rfl, by simp⟩⟩
    simpa [free] using fun same => feed same.symm

theorem terminated_of_free {x : Text} (free : '\n' ∉ x) : terminated x = x ++ ['\n'] :=
  if_neg fun feed => free (List.mem_of_getLast? feed)

theorem terminated_feed (t : Text) : terminated (t ++ ['\n']) = t ++ ['\n'] :=
  terminated_of_endsLine (endsLine_feed t) (by simp)

theorem lines_feed {x : Text} (free : '\n' ∉ x) : lines (x ++ ['\n']) = [x ++ ['\n']] :=
  lines_append_feed free []

theorem indented_append (ends : EndsLine t) (u : Text) :
    indented indent (t ++ u) = indented indent t ++ indented indent u := by
  rw [indented_eq, lines_append ends, List.flatMap_append, indented_eq, indented_eq]

theorem indented_feed {x : Text} (free : '\n' ∉ x) :
    indented indent (x ++ ['\n']) = indentLine indent x ++ ['\n'] := by
  rw [indented_eq, lines_feed free, List.flatMap_singleton, indentLine_feed]

theorem indented_of_free {x : Text} (filled : x ≠ []) (free : '\n' ∉ x) :
    indented indent x = indentLine indent x := by
  rw [indented_eq, lines_of_free filled free, List.flatMap_singleton]

/-- It makes no difference whether a text is terminated before or after it is indented. -/
theorem indented_terminated (plain : '\n' ∉ indent) (t : Text) :
    indented indent (terminated t) = terminated (indented indent t) := by
  by_cases filled : t = []
  · subst filled
    rfl
  obtain ⟨u, x, ends, free, rfl | ⟨rfl, some⟩⟩ := exists_final_line filled
  · rw [← List.append_assoc, terminated_feed, List.append_assoc, indented_append ends, indented_feed free,
      ← List.append_assoc, terminated_feed]
  · rw [terminated_append u some, terminated_of_free free, indented_append ends, indented_append ends,
      indented_feed free, indented_of_free some free, terminated_append _ (indentLine_ne_nil some),
      terminated_of_free (notMem_indentLine plain free)]

/-! ## Joined text -/

/-- An empty line before a text stays empty. -/
theorem indented_cons (indent t : Text) : indented indent ('\n' :: t) = '\n' :: indented indent t := rfl

/-- Texts that stop at the end of a line are indented one by one. -/
theorem indented_join {ts : List Text} (each : ∀ u ∈ ts, EndsLine u) :
    indented indent (join ['\n'] ts) = join ['\n'] (ts.map (indented indent)) := by
  induction ts with
  | nil => rfl
  | cons u us ih =>
    obtain ⟨ends, rest⟩ := List.forall_mem_cons.mp each
    cases us with
    | nil => rfl
    | cons v vs =>
      rw [join_cons_cons, indented_append ends, indented_cons, ih rest]
      exact (join_cons_cons ..).symm

/-! ## Numbers of lines -/

/-- Lines are counted by their line feeds. -/
theorem length_lines (ends : EndsLine t) : (lines t).length = t.count '\n' := by
  induction t with
  | nil => rfl
  | cons c r ih =>
    have below : EndsLine r := by
      cases r with
      | nil => exact endsLine_nil
      | cons d r => exact .inr (by simpa [EndsLine] using ends)
    rw [lines]
    split
    · rename_i feed
      rw [List.length_cons, ih below, feed, List.count_cons_self]
    · rename_i other
      rw [List.count_cons_of_ne (by simpa using other), ← ih below]
      cases cut : lines r with
      | nil =>
        rw [lines_eq_nil] at cut
        subst cut
        simp_all [EndsLine]
      | cons l ls => rfl

theorem length_lines_terminated (t : Text) :
    (lines (terminated t)).length = t.count '\n' + if t.getLast? = some '\n' then 0 else 1 := by
  rw [length_lines (endsLine_terminated t), terminated]
  split
  · rfl
  · rw [List.count_append, List.count_singleton_self]

/-- A text that is not empty has as many lines when it is terminated. -/
theorem length_lines_of_ne_nil (filled : t ≠ []) : (lines t).length = (lines (terminated t)).length := by
  obtain ⟨u, x, ends, free, rfl | ⟨rfl, some⟩⟩ := exists_final_line filled
  · rw [← List.append_assoc, terminated_feed]
  · rw [terminated_append u some, terminated_of_free free, lines_append ends, lines_append ends, lines_feed free,
      lines_of_free some free, List.length_append, List.length_append, List.length_singleton, List.length_singleton]

/-- Characters without line feeds that are put before a terminated text make no line. -/
theorem length_lines_append {x : Text} (free : '\n' ∉ x) (t : Text) :
    (lines (x ++ terminated t)).length = (lines (terminated t)).length := by
  rw [length_lines (endsLine_append_terminated x t), length_lines (endsLine_terminated t), List.count_append,
    List.count_eq_zero.mpr free, Nat.zero_add]

/-- Joined texts have the lines of each of them, and an empty line between neighbours. -/
theorem length_lines_join {ts : List Text} (each : ∀ u ∈ ts, EndsLine u) :
    (lines (join ['\n'] ts)).length = total (ts.map fun u => (lines u).length) + (ts.length - 1) := by
  induction ts with
  | nil => rfl
  | cons u us ih =>
    obtain ⟨ends, rest⟩ := List.forall_mem_cons.mp each
    cases us with
    | nil => simp [join]
    | cons v vs =>
      have empty : lines ('\n' :: join ['\n'] (v :: vs)) = ['\n'] :: lines (join ['\n'] (v :: vs)) := rfl
      rw [join_cons_cons, lines_append ends, empty, List.length_append, List.length_cons, ih rest]
      simp only [List.map_cons, total_cons, List.length_cons]
      omega

end Cleave.Text
