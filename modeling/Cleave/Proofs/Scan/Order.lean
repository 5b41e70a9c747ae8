import Cleave.Proofs.Scan.Outline

/-!
# Parts in order of their lines

Declarations and residues are kept in two lists. Sorting the two lists together by first line gives the parts of
the outline back, in the order in which they stand in the document.
-/

namespace Cleave.Scan

section Sorting

variable {α : Type} {key : α → Nat}

theorem eq_of_pairwise_lt {m : List α} (ordered : m.Pairwise fun a b => key a < key b) {a b : α}
    (left : a ∈ m) (right : b ∈ m) (same : key a = key b) : a = b := by
  induction ordered with
  | nil => simp at left
  | cons smaller _ ih =>
    rcases List.mem_cons.mp left with rfl | inside
    · rcases List.mem_cons.mp right with rfl | later
      · rfl
      · have := smaller b later
        omega
    · rcases List.mem_cons.mp right with rfl | later
      · have := smaller a inside
        omega
      · exact ih inside later

/-- Sorting by a key gives the only order in which the keys increase. -/
theorem mergeSort_eq_of_perm {l m : List α} (perm : l.Perm m)
    (ordered : m.Pairwise fun a b => key a < key b) :
    l.mergeSort (fun a b => decide (key a ≤ key b)) = m := by
  have sorted : (l.mergeSort fun a b => decide (key a ≤ key b)).Pairwise fun a b => key a ≤ key b := by
    have result : (l.mergeSort fun a b => decide (key a ≤ key b)).Pairwise
        fun a b => decide (key a ≤ key b) = true := by
      apply List.pairwise_mergeSort
      · simp only [decide_eq_true_eq]
        omega
      · simp only [Bool.or_eq_true, decide_eq_true_eq]
        omega
    simpa only [decide_eq_true_eq] using result
  have same := (List.mergeSort_perm l fun a b => decide (key a ≤ key b)).trans perm
  refine List.Perm.eq_of_pairwise ?_ sorted (ordered.imp Nat.le_of_lt) same
  intro a b left right below above
  exact eq_of_pairwise_lt ordered (same.mem_iff.mp left) right (Nat.le_antisymm below above)

end Sorting

/-- Parts of a tiling end before the next one starts. -/
theorem Tiled.pairwise {s : Nat} {qs : List Part} (tiled : Tiled s qs) :
    qs.Pairwise fun a b => a.first + a.lines.length ≤ b.first := by
  induction qs generalizing s with
  | nil => exact .nil
  | cons q qs ih =>
    obtain ⟨first, -, rest⟩ := tiled
    refine .cons (fun r member => ?_) (ih rest)
    obtain ⟨a, b, -, place, -⟩ := rest.exists_lines member
    omega

theorem Tiled.pairwise_first {s : Nat} {qs : List Part} (tiled : Tiled s qs) :
    qs.Pairwise fun a b => a.first < b.first := by
  refine List.Pairwise.imp_of_mem (fun {a b} left _ follows => ?_) tiled.pairwise
  obtain ⟨-, -, -, -, filled⟩ := tiled.exists_lines left
  have positive := List.length_pos_iff.mpr filled
  omega

theorem Tiled.left {s : Nat} {qs rs : List Part} (tiled : Tiled s (qs ++ rs)) : Tiled s qs := by
  induction qs generalizing s with
  | nil => trivial
  | cons q qs ih => exact ⟨tiled.1, tiled.2.1, ih tiled.2.2⟩

/-- No two parts of a tiling share a line. -/
theorem Tiled.eq_of_line {s i : Nat} {qs : List Part} {q r : Part} (tiled : Tiled s qs) (left : q ∈ qs)
    (right : r ∈ qs) (inLeft : q.first ≤ i ∧ i < q.first + q.lines.length)
    (inRight : r.first ≤ i ∧ i < r.first + r.lines.length) : q = r := by
  induction qs generalizing s with
  | nil => simp at left
  | cons t qs ih =>
    obtain ⟨first, -, rest⟩ := tiled
    rcases List.mem_cons.mp left with rfl | later
    · rcases List.mem_cons.mp right with rfl | other
      · rfl
      · obtain ⟨a, b, -, place, -⟩ := rest.exists_lines other
        omega
    · rcases List.mem_cons.mp right with rfl | other
      · obtain ⟨a, b, -, place, -⟩ := rest.exists_lines later
        omega
      · exact ih rest later other

/-- Residues and declarations together are the parts, up to order. -/
theorem perm_map_parts {β : Type} {u : Residue → β} {v : Span → β} {w : Part → β} {qs : List Part}
    (residues : ∀ q ∈ qs, ∀ r, q.residue? = some r → u r = w q)
    (spans : ∀ q ∈ qs, ∀ s, q.span? = some s → v s = w q) :
    ((qs.filterMap Part.residue?).map u ++ (qs.filterMap Part.span?).map v).Perm (qs.map w) := by
  induction qs with
  | nil => exact .refl _
  | cons q qs ih =>
    have rest := ih (fun r member => residues r (by simp [member])) fun r member => spans r (by simp [member])
    obtain ⟨name, first, ls⟩ := q
    cases name with
    | none =>
      have same := residues _ (by simp) _ (Part.residue?_residue first ls)
      simp only [List.filterMap_cons, Part.span?_residue, Part.residue?_residue, List.map_cons, same]
      exact rest.cons _
    | some name =>
      have same := spans _ (by simp) _ (Part.span?_declaration name first ls)
      simp only [List.filterMap_cons, Part.span?_declaration, Part.residue?_declaration, List.map_cons, same]
      exact List.perm_middle.trans (rest.cons _)

/-- Sorted by first line, residues and declarations are the parts in the order of the document. -/
theorem mergeSort_parts {β : Type} {key : β → Nat} {u : Residue → β} {v : Span → β} {w : Part → β}
    {qs : List Part} (ordered : qs.Pairwise fun a b => a.first < b.first) (place : ∀ q ∈ qs, key (w q) = q.first)
    (residues : ∀ q ∈ qs, ∀ r, q.residue? = some r → u r = w q)
    (spans : ∀ q ∈ qs, ∀ s, q.span? = some s → v s = w q) :
    ((qs.filterMap Part.residue?).map u ++ (qs.filterMap Part.span?).map v).mergeSort
      (fun x y => decide (key x ≤ key y)) = qs.map w := by
  refine mergeSort_eq_of_perm (perm_map_parts residues spans) ?_
  rw [List.pairwise_map]
  refine ordered.imp_of_mem fun {a b} left right below => ?_
  rw [place a left, place b right]
  exact below

end Cleave.Scan
