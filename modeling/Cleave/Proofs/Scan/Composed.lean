import Cleave.Proofs.Scan.Outline

/-!
# Composed lines

Lines that are put together from declarations that close, other lines and at most one aggregator are read back as
what they were put together from (`Composed.scan_eq`). What stands between the declarations does not matter, as
long as it holds no start.
-/

namespace Cleave.Scan

/-- Lines put together from declarations with the given names, in order, from lines that are no starts, and from an
aggregator with the given name, which any lines may follow. -/
inductive Composed (p : ScanPatterns) : List Text → List Text → Option Text → Prop
  | nil : Composed p [] [] none
  | loose {l : Text} {ls names : List Text} {last : Option Text} (quiet : start? p l = none)
      (rest : Composed p ls names last) : Composed p (l :: ls) names last
  | declaration {name : Text} {block ls names : List Text} {last : Option Text}
      (declares : IsDeclaration p ⟨name, false⟩ block) (rest : Composed p ls names last) :
      Composed p (block ++ ls) (name :: names) last
  | aggregator {name : Text} {block : List Text} (declares : IsDeclaration p ⟨name, true⟩ block) (ls : List Text) :
      Composed p (block ++ ls) [] (some name)

theorem Composed.append_loose {p : ScanPatterns} {qs ls names : List Text} {last : Option Text}
    (quiet : ∀ l ∈ qs, start? p l = none) (rest : Composed p ls names last) : Composed p (qs ++ ls) names last := by
  induction qs with
  | nil => exact rest
  | cons l qs ih => exact .loose (quiet l (by simp)) (ih fun m member => quiet m (by simp [member]))

theorem segments_append_loose {p : ScanPatterns} {qs : List Text} (quiet : ∀ l ∈ qs, start? p l = none)
    (ls : List Text) : segments p (qs ++ ls) = (qs ++ (segments p ls).1, (segments p ls).2) := by
  induction qs with
  | nil => rfl
  | cons l qs ih =>
    simp only [List.cons_append, segments, quiet l (by simp), ih fun m member => quiet m (by simp [member])]

/-- A declaration is the start of a segment, which goes on to the next start. -/
theorem IsDeclaration.exists_segment {p : ScanPatterns} {start : Start} {block : List Text}
    (declares : IsDeclaration p start block) (ls : List Text) :
    ∃ g, segments p (block ++ ls) = ([], g :: (segments p ls).2) ∧ g.start = start ∧
      g.lines = block ++ (segments p ls).1 ∧ blockLength? p g.lines = some block.length := by
  obtain ⟨l, rest, rfl, found, quiet⟩ := declares.starts
  refine ⟨⟨start, l, rest ++ (segments p ls).1⟩, ?_, rfl, rfl, declares.block.blockLength?_append _⟩
  simp only [List.cons_append, segments, found, segments_append_loose quiet ls]

@[simp]
theorem filterMap_name_loose (first : Nat) (ls : List Text) : (loose first ls).filterMap Part.name = [] := by
  unfold loose
  split <;> simp

/-- The outline of composed lines has no failures, and its names are the given ones. -/
theorem Composed.outline_eq {p : ScanPatterns} {ls names : List Text} {last : Option Text}
    (composed : Composed p ls names last) (s : Nat) :
    let r := outline p s (segments p ls).2
    r.failures = [] ∧ r.parts.filterMap Part.name = names ∧ r.aggregator.bind Part.name = last := by
  induction composed generalizing s with
  | nil => exact ⟨rfl, rfl, rfl⟩
  | loose quiet rest ih => simpa [segments, quiet] using ih s
  | @declaration name block ls names last declares rest ih =>
    obtain ⟨g, cut, start, lines, closed⟩ := declares.exists_segment ls
    obtain ⟨failures, found, ends⟩ := ih (s + g.lines.length)
    simp only [cut, outline, closed, start, Bool.false_eq_true, if_false]
    exact ⟨failures, by simp [Outline.declaring, found], ends⟩
  | @aggregator name block declares ls =>
    obtain ⟨g, cut, start, lines, closed⟩ := declares.exists_segment ls
    simp [cut, outline, closed, start]

theorem map_name_span? (q : Part) : q.span?.map Span.name = q.name := by
  simp [Part.span?, Function.comp_def]

/-- A scan reads back what lines are composed of. -/
theorem Composed.scan_eq {p : ScanPatterns} {d : Document} {names : List Text} {last : Option Text}
    (composed : Composed p d.lines names last) :
    (p.scan d).failures = [] ∧ (p.scan d).declarations.map Span.name = names ∧
      (p.scan d).aggregator.map Span.name = last := by
  obtain ⟨failures, found, ends⟩ := composed.outline_eq (opening p d).length
  rw [scan_eq_outcome]
  refine ⟨failures, ?_, ?_⟩
  · rw [← found, Outline.addTo, List.nil_append, List.map_filterMap]
    simp only [map_name_span?]
    rfl
  · rw [← ends, Outline.addTo, Option.map_bind]
    simp only [Function.comp_def, map_name_span?]
    rfl

end Cleave.Scan
