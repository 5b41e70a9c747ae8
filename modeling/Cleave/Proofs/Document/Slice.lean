import Cleave.Proofs.Scan.Lossless

/-!
# Slices of a document

A slice is cut out of a document between lines. So slices that meet join to one, and a slice that is cut into lines
again has the lines it was cut from, each with its old number once the first line of the slice is added
(`Document.slices_lossless`). The preamble and the pieces of a scan are such slices, and the preamble has as many lines
as stand before the first start (`ScanPatterns.lines_pieces`).
-/

namespace Cleave

namespace Document

variable {a b c : Nat}

/-- Slices that meet join to one. -/
theorem slice_append_slice (d : Document) (first : a ≤ b) (second : b ≤ c) :
    d.slice a b ++ d.slice b c = d.slice a c := by
  obtain ⟨m, rfl⟩ := Nat.exists_eq_add_of_le first
  obtain ⟨n, rfl⟩ := Nat.exists_eq_add_of_le second
  have lengths : a + m - a = m ∧ a + m + n - (a + m) = n ∧ a + m + n - a = m + n := by omega
  simp only [slice, List.drop_take, ← List.flatten_append, lengths]
  rw [List.take_add, List.drop_drop]

/-- A slice has the lines it was cut from. -/
theorem lines_slice (path : Path) (text : Text) (a b : Nat) :
    Text.lines ((ofText path text).slice a b) = ((ofText path text).lines.take b).drop a := by
  have inside : (((ofText path text).lines.take b).drop a) <:+: Text.lines text :=
    (List.drop_suffix a _).isInfix.trans (List.take_prefix b _).isInfix
  exact Text.lines_flatten ((Text.lined_lines text).run inside)

/-- A slice of a slice is a slice of the document: its lines are counted from the first line of the outer slice, and
end with it. -/
theorem slice_ofText_slice (path : Path) (text : Text) (a b i j : Nat) :
    (ofText path ((ofText path text).slice a b)).slice i j = (ofText path text).slice (a + i) (min (a + j) b) := by
  rw [slice, show (ofText path ((ofText path text).slice a b)).lines = _ from lines_slice path text a b,
    List.take_drop, List.take_take, List.drop_drop, slice]

theorem getElem?_lines_slice (path : Path) (text : Text) (a b i : Nat) :
    (Text.lines ((ofText path text).slice a b))[i]? =
      if a + i < b then (ofText path text).lines[a + i]? else none := by
  rw [lines_slice, List.getElem?_drop, List.getElem?_take]

/-- Documents are cut and put together again without loss. A document holds the only lines that its text can be cut
into, and slices that meet join to one. A slice, read as a document of its own, has the lines of its range, also where
the range reaches beyond the end; its line `i` is line `a + i` of the document, and so its slices are slices of the
document. -/
theorem slices_lossless (path : Path) (text : Text) :
    let d := ofText path text
    d.text = text ∧ (∀ ls, Text.IsLinesOf text ls ↔ ls = d.lines) ∧
      (∀ a b c, a ≤ b → b ≤ c → d.slice a b ++ d.slice b c = d.slice a c) ∧
      ∀ a b,
        let cut := ofText path (d.slice a b)
        cut.lines = (d.lines.take b).drop a ∧
          (∀ i, cut.lines[i]? = if a + i < b then d.lines[a + i]? else none) ∧
          ∀ i j, cut.slice i j = d.slice (a + i) (min (a + j) b) := by
  intro d
  refine ⟨Text.flatten_lines text, fun ls => Text.isLinesOf_iff, ?_, ?_⟩
  · intro a b c first second
    exact d.slice_append_slice first second
  · intro a b cut
    exact ⟨lines_slice path text a b, getElem?_lines_slice path text a b, slice_ofText_slice path text a b⟩

/-- A lone carriage return ends no line, and the last line has no line feed; the ranges reach beyond it. -/
theorem slices_lossless_sample :
    let d := ofText ⟨"db.ts".toList⟩ "a\r\nb\rc\n\nd".toList
    d.slice 1 3 = "b\rc\n\n".toList ∧ d.slice 3 9 = "d".toList ∧ d.slice 1 3 ++ d.slice 3 9 = d.slice 1 9 ∧
      (ofText d.path (d.slice 1 9)).lines = ["b\rc\n".toList, "\n".toList, "d".toList] := by
  intro d
  obtain ⟨-, -, joins, cuts⟩ := slices_lossless ⟨"db.ts".toList⟩ "a\r\nb\rc\n\nd".toList
  have lines := (cuts 1 9).1
  exact ⟨by decide, by decide, joins 1 3 9 (by decide) (by decide), lines.trans (by decide)⟩

end Document

/-! ## Pieces of a scan -/

namespace Scan

variable {p : ScanPatterns} {d : Document} {q : Part}

theorem length_opening (p : ScanPatterns) (d : Document) :
    (opening p d).length = d.lines.findIdx fun l => (start? p l).isSome := by
  rw [opening]
  induction d.lines with
  | nil => rfl
  | cons l ls ih =>
    rw [segments, List.findIdx_cons]
    cases start? p l with
    | none => simp [ih]
    | some start => rfl

theorem take_opening (p : ScanPatterns) (d : Document) : d.lines.take (opening p d).length = opening p d := by
  rw [← opening_append p d, List.take_left' rfl]

theorem preamble_eq_slice (p : ScanPatterns) (d : Document) :
    (p.scan d).preamble = d.slice 0 (opening p d).length := by
  rw [Document.slice, take_opening, List.drop_zero, scan_eq_outcome]
  rfl

theorem lines_preamble (p : ScanPatterns) (path : Path) (text : Text) :
    Text.lines (p.scan (.ofText path text)).preamble = opening p (.ofText path text) := by
  rw [preamble_eq_slice, Document.lines_slice, take_opening, List.drop_zero]

theorem length_opening_le_first (member : q ∈ (outlineOf p d).all) : (opening p d).length ≤ q.first := by
  obtain ⟨before, -, -, place, -⟩ := (outline_tiled p _ _).exists_lines member
  omega

end Scan

/-- The lines of a scan's pieces are lines of the document, under the same numbers. The preamble holds the lines
before the first start, so that the number of its lines is the number of the line where the pieces begin. -/
theorem ScanPatterns.lines_pieces (p : ScanPatterns) (path : Path) (text : Text) :
    let d := Document.ofText path text
    let o := p.scan d
    let n := (Text.lines o.preamble).length
    n = (d.lines.findIdx fun l => (Scan.start? p l).isSome) ∧ o.preamble = d.slice 0 n ∧
      ∀ x ∈ o.pieces ++ (o.aggregator.map Span.piece).toList,
        n ≤ x.first ∧ Text.lines x.text = (d.lines.take x.stop).drop x.first := by
  intro d o n
  have lines : n = (Scan.opening p d).length := congrArg List.length (Scan.lines_preamble p path text)
  rw [lines]
  refine ⟨Scan.length_opening p d, Scan.preamble_eq_slice p d, fun x member => ?_⟩
  rw [Scan.pieces_append_aggregator] at member
  obtain ⟨q, inside, rfl⟩ := List.mem_map.mp member
  refine ⟨Scan.length_opening_le_first inside, ?_⟩
  rw [Scan.text_eq_slice inside, Document.lines_slice]

end Cleave
