import Cleave.Proofs.Scan.Order
import Cleave.Proofs.Text.Lines

/-!
# A scan loses nothing

Declarations, residues and the aggregator are pieces of the document: runs of its lines. In the order of their
first lines, between the preamble and the trailing text, they give the text back (`scan_lossless`).
-/

namespace Cleave

/-- A run of lines that a scan has cut out of a document. -/
structure Piece where
  first : Nat
  /-- The line after the last one. -/
  stop : Nat
  text : Text

/-- The lines of a declaration. -/
def Span.piece (s : Span) : Piece :=
  { first := s.first, stop := s.last + 1, text := s.text }

/-- The lines of a residue. -/
def Residue.piece (r : Residue) : Piece :=
  { first := r.first, stop := r.first + (Text.lines r.text).length, text := r.text }

/-- Declarations and residues in order of their first lines. -/
def ScanOutcome.pieces (o : ScanOutcome) : List Piece :=
  (o.residue.map Residue.piece ++ o.declarations.map Span.piece).mergeSort fun x y => decide (x.first ≤ y.first)

theorem total_perm {ms ns : List Nat} (perm : ms.Perm ns) : total ms = total ns := by
  induction perm with
  | nil => rfl
  | cons n _ ih => simp [ih]
  | swap m n ns =>
    simp only [total_cons]
    omega
  | trans _ _ left right => exact left.trans right

theorem Text.byteLength_append (t u : Text) : byteLength (t ++ u) = byteLength t + byteLength u := by
  simp [byteLength]

theorem Text.byteLength_flatMap {α : Type} (f : α → Text) (as : List α) :
    byteLength (as.flatMap f) = total (as.map fun a => byteLength (f a)) := by
  induction as with
  | nil => rfl
  | cons a as ih => simp [byteLength_append, ih]

namespace Scan

/-- The piece that a part is. -/
def Part.piece (q : Part) : Piece :=
  { first := q.first, stop := q.first + q.lines.length, text := q.text }

theorem Part.piece_of_span {q : Part} {s : Span} (filled : q.lines ≠ []) (found : q.span? = some s) :
    s.piece = q.piece := by
  obtain ⟨name, -, rfl⟩ := Option.map_eq_some_iff.mp found
  have positive := List.length_pos_iff.mpr filled
  simp only [Span.piece, Part.piece, Piece.mk.injEq, true_and, and_true]
  omega

theorem Part.piece_of_residue {q : Part} {r : Residue} (lined : Text.Lined q.lines) (found : q.residue? = some r) :
    r.piece = q.piece := by
  simp only [Part.residue?, Option.ite_none_right_eq_some, Option.some.injEq] at found
  obtain ⟨-, rfl⟩ := found
  simp [Residue.piece, Part.piece, Part.text, Text.lines_flatten lined]

theorem lined_of_mem {p : ScanPatterns} {path : Path} {text : Text} {q : Part}
    (member : q ∈ (outlineOf p (.ofText path text)).all) : Text.Lined q.lines := by
  obtain ⟨a, b, lines, -, -⟩ := exists_lines_of_mem member
  have lined := Text.lined_lines text
  rw [show Text.lines text = (Document.ofText path text).lines from rfl, lines] at lined
  exact lined.left.right

/-- The pieces of a scan, the aggregator last, are the parts of the outline. -/
theorem pieces_eq (p : ScanPatterns) (path : Path) (text : Text) :
    (p.scan (.ofText path text)).pieces = (outlineOf p (.ofText path text)).parts.map Part.piece := by
  have inside : ∀ q ∈ (outlineOf p (.ofText path text)).parts, q ∈ (outlineOf p (.ofText path text)).all :=
    fun q member => List.mem_append_left _ member
  have tiled := outline_tiled p (opening p (.ofText path text)).length (segments p (Text.lines text)).2
  rw [scan_eq_outcome, ScanOutcome.pieces]
  refine mergeSort_parts (List.pairwise_append.mp tiled.pairwise_first).1 (fun q _ => rfl) ?_ ?_
  · intro q member r found
    exact Part.piece_of_residue (lined_of_mem (inside q member)) found
  · intro q member s found
    obtain ⟨-, -, -, -, filled⟩ := exists_lines_of_mem (inside q member)
    exact Part.piece_of_span filled found

theorem flatten_flatMap_lines (qs : List Part) : (qs.flatMap Part.lines).flatten = qs.flatMap Part.text := by
  induction qs with
  | nil => rfl
  | cons q qs ih => simp [ih, Part.text]

/-- The span of the aggregator holds the lines of its part. -/
theorem aggregator_eq (p : ScanPatterns) (d : Document) :
    (p.scan d).aggregator.map Span.piece = (outlineOf p d).aggregator.map Part.piece := by
  rw [scan_eq_outcome]
  simp only [Outline.addTo]
  cases found : (outlineOf p d).aggregator with
  | none => rfl
  | some q =>
    obtain ⟨name, named, declares⟩ := outline_aggregator (segments_wellCut p d.lines).2 found
    obtain ⟨l, rest, lines, -, -⟩ := declares.starts
    have spanned := Part.span?_of_name named
    rw [Option.bind_some, spanned, Option.map_some, Option.map_some, Part.piece_of_span (by simp [lines]) spanned]

/-- The pieces of a scan, the aggregator last, are the parts of the outline. -/
theorem pieces_append_aggregator (p : ScanPatterns) (path : Path) (text : Text) :
    let o := p.scan (.ofText path text)
    o.pieces ++ (o.aggregator.map Span.piece).toList = (outlineOf p (.ofText path text)).all.map Part.piece := by
  intro o
  rw [pieces_eq, aggregator_eq, Outline.all, List.map_append, Option.toList_map]

/-- The text before, in, between and after the pieces is the whole text. -/
theorem scan_text (p : ScanPatterns) (path : Path) (text : Text) :
    let o := p.scan (.ofText path text)
    o.preamble ++ o.pieces.flatMap Piece.text ++ (o.aggregator.map Span.text).getD [] ++ o.trailing = text := by
  intro o
  have closing : (o.aggregator.map Span.text).getD [] =
      (outlineOf p (.ofText path text)).aggregator.toList.flatMap Part.text := by
    have same := congrArg (Option.map Piece.text) (aggregator_eq p (.ofText path text))
    rw [Option.map_map, Option.map_map] at same
    refine (congrArg (Option.getD · []) same).trans ?_
    cases (outlineOf p (.ofText path text)).aggregator with
    | none => rfl
    | some q => simp [Part.piece]
  have whole := congrArg List.flatten (opening_append p (.ofText path text))
  rw [closing, pieces_eq, List.flatMap_map]
  simp only [List.flatten_append, flatten_flatMap_lines, Outline.all, List.flatMap_append] at whole
  rw [show (Document.ofText path text).lines.flatten = text from Text.flatten_lines text] at whole
  refine Eq.trans ?_ whole
  simp only [o, scan_eq_outcome, Outline.addTo, List.append_assoc]
  rfl

/-- The bytes of all parts of an outcome are the bytes of the text they are put together to. -/
theorem accountedLength_eq (o : ScanOutcome) :
    o.accountedLength =
      Text.byteLength
        (o.preamble ++ o.pieces.flatMap Piece.text ++ (o.aggregator.map Span.text).getD [] ++ o.trailing) := by
  have sorted := List.mergeSort_perm (o.residue.map Residue.piece ++ o.declarations.map Span.piece)
    fun x y => decide (x.first ≤ y.first)
  have bytes := total_perm (sorted.map fun x => Text.byteLength x.text)
  have closing : (o.aggregator.map fun s => Text.byteLength s.text).getD 0 =
      Text.byteLength ((o.aggregator.map Span.text).getD []) := by
    cases o.aggregator <;> rfl
  simp only [Text.byteLength_append, Text.byteLength_flatMap, ScanOutcome.pieces, bytes, List.map_append,
    List.map_map, total_append, ScanOutcome.accountedLength, closing]
  simp only [Function.comp_def, Span.piece, Residue.piece]
  omega

theorem byteLength_ofText (path : Path) (text : Text) :
    (Document.ofText path text).byteLength = Text.byteLength text := by
  have lengths := Text.byteLength_flatMap id (Text.lines text)
  rw [List.flatMap_id, Text.flatten_lines] at lengths
  exact lengths.symm

theorem span_bounds {p : ScanPatterns} {d : Document} {s : Span} (member : s ∈ (p.scan d).declarations) :
    s.first ≤ s.last ∧ s.last < d.lines.length := by
  rw [scan_eq_outcome] at member
  obtain ⟨q, inside, found⟩ := List.mem_filterMap.mp member
  obtain ⟨a, b, lines, place, filled⟩ := exists_lines_of_mem (List.mem_append_left _ inside)
  obtain ⟨name, -, rfl⟩ := Option.map_eq_some_iff.mp found
  have positive := List.length_pos_iff.mpr filled
  simp only [lines, List.length_append]
  omega

theorem text_eq_slice {p : ScanPatterns} {d : Document} {q : Part} (member : q ∈ (outlineOf p d).all) :
    q.piece.text = d.slice q.piece.first q.piece.stop := by
  obtain ⟨a, b, lines, place, -⟩ := exists_lines_of_mem member
  simp only [Part.piece, Part.text, Document.slice, lines, place]
  rw [List.take_left' (List.length_append ..), List.drop_left' rfl]

end Scan

/-- Scanning loses nothing. The preamble, the declarations and residues in order of their first lines, the
aggregator and the trailing text are the whole text; so their lengths in bytes add up, every piece consists of
lines of the document, and each ends before the next one starts. -/
theorem scan_lossless (p : ScanPatterns) (path : Path) (text : Text) :
    let d := Document.ofText path text
    let o := p.scan d
    o.preamble ++ o.pieces.flatMap Piece.text ++ (o.aggregator.map Span.text).getD [] ++ o.trailing = text ∧
      o.accountedLength = d.byteLength ∧
      (∀ s ∈ o.declarations, s.first ≤ s.last ∧ s.last < d.lines.length) ∧
      (∀ x ∈ o.pieces ++ (o.aggregator.map Span.piece).toList, x.text = d.slice x.first x.stop) ∧
      (o.pieces ++ (o.aggregator.map Span.piece).toList).Pairwise fun x y => x.stop ≤ y.first := by
  intro d o
  have whole := Scan.scan_text p path text
  refine ⟨whole, ?_, fun s member => Scan.span_bounds member, ?_, ?_⟩
  · rw [Scan.accountedLength_eq, Scan.byteLength_ofText, whole]
  · intro x member
    rw [Scan.pieces_append_aggregator] at member
    obtain ⟨q, inside, rfl⟩ := List.mem_map.mp member
    exact Scan.text_eq_slice inside
  · rw [Scan.pieces_append_aggregator, List.pairwise_map]
    exact (Scan.outline_tiled p _ _).pairwise

end Cleave
