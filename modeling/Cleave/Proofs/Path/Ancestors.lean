import Cleave.Proofs.Path.Parts

/-!
# Going up from a path

The paths that an absolute path is below are found by going from parent to parent (`ancestors_eq`), and that ends: the
directory some steps up is the ancestor with that number (`above?_eq`), and there are finitely many.
-/

namespace Cleave.Path

variable {p q : Path}

/-- The path that is some steps up. -/
def above? : Nat → Path → Option Path
  | 0, p => some p
  | n + 1, p => p.parent?.bind (above? n)

theorem start_lt_stop {start : Nat} {ps : List Text} {x : Located} (member : x ∈ locateFrom start ps) :
    start < x.stop := by
  induction ps generalizing start with
  | nil => cases member
  | cons part ps ih =>
    rcases List.mem_append.mp member with here | later
    · obtain ⟨stop, filled, -⟩ := locate?_eq_some (Option.mem_toList.mp here)
      have long := List.length_pos_iff.mpr filled
      omega
    · have further := ih later
      omega

/-- Components end one after the other. -/
theorem pairwise_stop (start : Nat) (ps : List Text) :
    (locateFrom start ps).Pairwise fun x y => x.stop < y.stop := by
  induction ps generalizing start with
  | nil => exact .nil
  | cons part ps ih =>
    refine List.pairwise_append.mpr ⟨?_, ih _, fun x here y later => ?_⟩
    · cases locate? start part with
      | none => exact .nil
      | some x => exact List.pairwise_singleton _ _
    · obtain ⟨stop, -, -⟩ := locate?_eq_some (Option.mem_toList.mp here)
      have further := start_lt_stop later
      omega

theorem ancestors_of_absolute (absolute : p.isAbsolute = true) :
    p.ancestors = p :: p.located.dropLast.reverse.map fun l => ⟨p.text.take l.stop⟩ := by
  rw [ancestors, if_pos absolute, List.append_nil]

/-- The paths that a path is below are its parent and the paths that its parent is below. -/
theorem ancestors_eq (absolute : p.isAbsolute = true) : p.ancestors = p :: p.parent?.elim [] ancestors := by
  rw [ancestors_of_absolute absolute]
  obtain none | ⟨before, x, cut⟩ := List.eq_nil_or_concat (locateFrom 0 p.parts)
  · simp [parent?, located_of_absolute absolute, none]
  · rw [List.concat_eq_append] at cut
    have parent := parent?_eq_some absolute cut
    have absolute' := isAbsolute_parent? absolute parent
    rw [parent, Option.elim_some, ancestors_of_absolute absolute', located_of_absolute absolute,
      located_of_absolute absolute', cut]
    cases before using List.reverseRecOn with
    | nil =>
      obtain ⟨r, text⟩ : ∃ r, p.text = '/' :: r := by
        cases text : p.text with
        | nil => simp [isAbsolute, text] at absolute
        | cons c r => exact ⟨r, by simpa [isAbsolute, text] using absolute⟩
      simp [text]
      rfl
    | append_singleton init y =>
      -- the parent ends with `y`, behind the end of every component before
      have earlier : ∀ l ∈ ⟨.root, 0, 1⟩ :: init, l.stop ≤ y.stop := by
        have ordered := pairwise_stop 0 p.parts
        rw [cut, List.append_assoc, List.pairwise_append] at ordered
        refine List.forall_mem_cons.mpr ⟨stop_pos absolute ?_, fun l member => ?_⟩
        · rw [located_of_absolute absolute, cut]
          simp
        · exact Nat.le_of_lt (ordered.2.2 l member y (by simp))
      have same : (⟨.root, 0, 1⟩ :: init).reverse.map (fun l => (⟨(p.text.take y.stop).take l.stop⟩ : Path)) =
          (⟨.root, 0, 1⟩ :: init).reverse.map fun l => ⟨p.text.take l.stop⟩ := by
        refine List.map_congr_left fun l member => ?_
        rw [List.take_take, Nat.min_eq_left (earlier l (List.mem_reverse.mp member))]
      rw [List.append_assoc, List.singleton_append] at cut
      rw [List.getLast?_concat, Option.map_some, Option.getD_some, locateFrom_take cut, ← List.cons_append,
        ← List.cons_append, List.dropLast_concat, List.dropLast_concat, List.reverse_append, same]
      rfl

/-- Going up from an absolute path visits the paths that it is below, and then ends. -/
theorem above?_eq (absolute : p.isAbsolute = true) (n : Nat) : above? n p = p.ancestors[n]? := by
  induction n generalizing p with
  | zero =>
    rw [ancestors_eq absolute]
    rfl
  | succ n ih =>
    rw [above?, ancestors_eq absolute, List.getElem?_cons_succ]
    cases parent : p.parent? with
    | none => rfl
    | some q => exact ih (isAbsolute_parent? absolute parent)

end Cleave.Path
