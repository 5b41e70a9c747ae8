import Mathlib.Data.List.Infix
import Cleave.Proofs.Scan.Outline

/-!
# Segmentation by line numbers

Which declarations a document holds can be said line by line, without a state: a start closes on the first line
before the next start where the delimiters balance, one of them has been opened and the closing marker occurs.
The main statement is `scan_segmentation`: a scan finds exactly these declarations and reports the starts that do
not close.
-/

namespace Cleave.ScanPatterns

open Scan

section Specification

variable (p : ScanPatterns) (d : Document)

/-- The start that line `i` makes, if it makes one. -/
def startAt? (i : Nat) : Option Start :=
  d.lines[i]?.bind (start? p)

/-- The next start after line `s`, or the number of lines. -/
def nextStart (s : Nat) : Nat :=
  ((List.range' (s + 1) (d.lines.length - (s + 1))).find? fun i => (p.startAt? d i).isSome).getD d.lines.length

/-- What line `e` has to satisfy to close a declaration that starts at line `s`. -/
def ClosesAt (s e : Nat) : Prop :=
  ((d.slice s (e + 1)).count p.openChar : Int) - (d.slice s (e + 1)).count p.closeChar = 0 ∧
    p.openChar ∈ d.slice s (e + 1) ∧ p.closingMarker <:+: d.slice e (e + 1)

instance (s e : Nat) : Decidable (p.ClosesAt d s e) :=
  inferInstanceAs (Decidable (_ ∧ _ ∧ _))

/-- The line on which a declaration that starts at line `s` closes. -/
def blockEnd? (s : Nat) : Option Nat :=
  (List.range' s (p.nextStart d s - s)).find? fun e => p.ClosesAt d s e

/-- Whether an aggregator starts at line `s` and closes. -/
def closesAggregator (s : Nat) : Bool :=
  (p.startAt? d s).any Start.aggregates && (p.blockEnd? d s).isSome

/-- The lines before the first aggregator that closes; all lines if there is none. -/
def linesBefore : List Nat :=
  (List.range d.lines.length).takeWhile fun s => !p.closesAggregator d s

/-- The declaration that starts at line `s` and closes. -/
def declarationAt? (s : Nat) : Option Span :=
  match p.startAt? d s, p.blockEnd? d s with
  | some start, some e => if start.aggregates then none else some (d.span start.name s e)
  | _, _ => none

/-- The failure of a start at line `s` that does not close. -/
def failureAt? (s : Nat) : Option ScanFailure :=
  match p.startAt? d s, p.blockEnd? d s with
  | some start, none =>
    if p.nextStart d s < d.lines.length then some (.interrupted start.name s (p.nextStart d s))
    else some (.unterminated start.name s)
  | _, _ => none

/-- The first aggregator that closes. -/
def aggregator? : Option Span :=
  ((List.range d.lines.length).find? (p.closesAggregator d)).bind fun s =>
    (p.startAt? d s).bind fun start => (p.blockEnd? d s).map (d.span start.name s)

end Specification

/-! ## A segment seen by line numbers -/

section Segment

variable {p : ScanPatterns} {d : Document} {before after : List Text} {g : Segment}

theorem startAt?_head (lines : d.lines = before ++ (g.lines ++ after)) (cut : g.WellCut p) :
    p.startAt? d before.length = some g.start := by
  simp [startAt?, lines, Segment.lines, cut.head]

theorem startAt?_tail (lines : d.lines = before ++ (g.lines ++ after)) (cut : g.WellCut p) {i : Nat}
    (inside : before.length < i) (below : i < before.length + g.lines.length) : p.startAt? d i = none := by
  obtain ⟨m, rfl⟩ := Nat.exists_eq_add_of_lt inside
  have short : m < g.tail.length := by
    simp only [Segment.lines, List.length_cons] at below
    omega
  have found : d.lines[before.length + m + 1]? = some g.tail[m] := by
    rw [lines, List.getElem?_append_right (by omega), Segment.lines, List.cons_append,
      show before.length + m + 1 - before.length = m + 1 by omega, List.getElem?_cons_succ,
      List.getElem?_append_left short, List.getElem?_eq_getElem short]
  rw [startAt?, found]
  exact cut.tail _ (List.getElem_mem short)

/-- The next start after a segment's own is where the segment stops. -/
theorem nextStart_eq {gs : List Segment} (lines : d.lines = before ++ (g.lines ++ gs.flatMap Segment.lines))
    (cut : g.WellCut p) (later : ∀ h ∈ gs, h.WellCut p) :
    p.nextStart d before.length = before.length + g.lines.length := by
  have size : d.lines.length = before.length + (g.lines.length + (gs.flatMap Segment.lines).length) := by
    simp [lines]
  cases gs with
  | nil =>
    have none : (List.range' (before.length + 1) (d.lines.length - (before.length + 1))).find?
        (fun i => (p.startAt? d i).isSome) = none := by
      rw [List.find?_range'_eq_none]
      intro i above below
      rw [startAt?_tail lines cut (by omega) (by simp at size; omega)]
      rfl
    rw [nextStart, none, Option.getD_none, size]
    simp
  | cons h gs =>
    have start : p.startAt? d (before.length + g.lines.length) = some h.start := by
      have shifted : d.lines = before ++ g.lines ++ (h.lines ++ gs.flatMap Segment.lines) := by simp [lines]
      simpa using startAt?_head shifted (later h (by simp))
    have found : (List.range' (before.length + 1) (d.lines.length - (before.length + 1))).find?
        (fun i => (p.startAt? d i).isSome) = some (before.length + g.lines.length) := by
      rw [List.find?_range'_eq_some]
      refine ⟨by simp [start], ?_, ?_⟩
      · simp [Segment.lines] at size ⊢
        omega
      · intro i above below
        rw [startAt?_tail lines cut (by omega) below]
        rfl
    rw [nextStart, found, Option.getD_some]

theorem slice_lines (lines : d.lines = before ++ (g.lines ++ after)) {k : Nat} (short : k ≤ g.lines.length) :
    d.slice before.length (before.length + k) = (g.lines.take k).flatten := by
  rw [Document.slice, lines, List.take_length_add_append, List.drop_left' rfl,
    List.take_append_of_le_length short]

theorem slice_line (lines : d.lines = before ++ (g.lines ++ after)) {m : Nat} (short : m < g.lines.length) :
    d.slice (before.length + m) (before.length + m + 1) = g.lines[m] := by
  rw [Document.slice, lines, Nat.add_assoc, List.take_length_add_append, List.drop_length_add_append,
    List.take_append_of_le_length short, List.take_succ_eq_append_getElem short,
    List.drop_left' (List.length_take_of_le (Nat.le_of_lt short)), List.flatten_singleton]

/-- A line closes the segment it stands in if the lines up to it close. -/
theorem closesAt_iff (differ : p.openChar ≠ p.closeChar) (lines : d.lines = before ++ (g.lines ++ after)) {m : Nat}
    (short : m < g.lines.length) :
    p.ClosesAt d before.length (before.length + m) ↔ closes p (g.lines.take (m + 1)) = true := by
  have last : (g.lines.take (m + 1)).getLast? = some g.lines[m] := by
    rw [List.take_succ_eq_append_getElem short, List.getLast?_concat]
  rw [ClosesAt, slice_line lines short, Nat.add_assoc, slice_lines lines short, ← excess_eq_count differ, closes,
    last, Option.any_some]
  simp [occursIn_iff, and_assoc]

/-- The line that closes a segment is the last line of its block. -/
theorem blockEnd?_eq {gs : List Segment} (differ : p.openChar ≠ p.closeChar)
    (lines : d.lines = before ++ (g.lines ++ gs.flatMap Segment.lines)) (cut : g.WellCut p)
    (later : ∀ h ∈ gs, h.WellCut p) :
    p.blockEnd? d before.length = (blockLength? p g.lines).map fun k => before.length + (k - 1) := by
  rw [blockEnd?, nextStart_eq lines cut later, Nat.add_sub_cancel_left]
  cases block : blockLength? p g.lines with
  | none =>
    have never := blockLength?_eq_none.mp block
    rw [Option.map_none, List.find?_range'_eq_none]
    intro e above below
    obtain ⟨m, rfl⟩ := Nat.exists_eq_add_of_le above
    have short : m < g.lines.length := by omega
    simp [closesAt_iff differ lines short, never (m + 1) short]
  | some k =>
    obtain ⟨fits, closed, earlier⟩ := blockLength?_eq_some.mp block
    obtain ⟨m, rfl⟩ := Nat.exists_eq_succ_of_ne_zero (Nat.ne_of_gt (blockLength?_pos block))
    rw [Option.map_some, List.find?_range'_eq_some]
    refine ⟨?_, ?_, ?_⟩
    · simpa [closesAt_iff differ lines fits] using closed
    · simp only [Nat.succ_eq_add_one, Nat.add_sub_cancel, List.mem_range'_1]
      omega
    · intro e above below
      obtain ⟨j, rfl⟩ := Nat.exists_eq_add_of_le above
      have small : j < m := by
        simp only [Nat.succ_eq_add_one, Nat.add_sub_cancel] at below
        omega
      simp [closesAt_iff differ lines (Nat.lt_trans small fits), earlier (j + 1) (Nat.succ_lt_succ small)]

end Segment

/-! ## All segments -/

section Walk

variable {p : ScanPatterns} {d : Document}

/-- The first lines of `is`, up to an aggregator that closes. -/
def upToAggregator (p : ScanPatterns) (d : Document) (is : List Nat) : List Nat :=
  is.takeWhile fun s => !p.closesAggregator d s

theorem upToAggregator_cons {s : Nat} {is : List Nat} (goes : p.closesAggregator d s = false) :
    upToAggregator p d (s :: is) = s :: upToAggregator p d is := by
  simp [upToAggregator, goes]

theorem range'_segment (s : Nat) (g : Segment) (gs : List Segment) :
    List.range' s ((g :: gs).flatMap Segment.lines).length =
      s :: (List.range' (s + 1) g.tail.length ++
        List.range' (s + g.lines.length) (gs.flatMap Segment.lines).length) := by
  have size : ((g :: gs).flatMap Segment.lines).length =
      (g.tail.length + (gs.flatMap Segment.lines).length) + 1 := by
    simp only [List.flatMap_cons, Segment.lines, List.length_append, List.length_cons]
    omega
  rw [size, List.range'_succ, ← List.range'_append_1]
  simp [Segment.lines, Nat.add_assoc, Nat.add_comm 1]

/-- Lines that make no start contribute nothing. -/
theorem filterMap_skip {β : Type} {f : Nat → Option β} {is js : List Nat}
    (silent : ∀ i, p.startAt? d i = none → f i = none) (quiet : ∀ i ∈ is, p.startAt? d i = none) :
    (upToAggregator p d (is ++ js)).filterMap f = (upToAggregator p d js).filterMap f := by
  have passes : ∀ i ∈ is, (!p.closesAggregator d i) = true := by
    intro i member
    simp [closesAggregator, quiet i member]
  have empty : is.filterMap f = [] := List.filterMap_eq_nil_iff.mpr fun i member => silent i (quiet i member)
  rw [upToAggregator, List.takeWhile_append_of_pos passes, List.filterMap_append, empty, List.nil_append,
    upToAggregator]

theorem find?_skip {is js : List Nat} (quiet : ∀ i ∈ is, p.startAt? d i = none) :
    (is ++ js).find? (p.closesAggregator d) = js.find? (p.closesAggregator d) := by
  have none : is.find? (p.closesAggregator d) = none := by
    rw [List.find?_eq_none]
    intro i member
    simp [closesAggregator, quiet i member]
  rw [List.find?_append, none, Option.none_or]

theorem declarationAt?_silent (i : Nat) (quiet : p.startAt? d i = none) : p.declarationAt? d i = none := by
  simp [declarationAt?, quiet]

theorem failureAt?_silent (i : Nat) (quiet : p.startAt? d i = none) : p.failureAt? d i = none := by
  simp [failureAt?, quiet]

/-- The span of a block is the span of its lines in the document. -/
theorem span_eq {before after : List Text} {g : Segment} {k : Nat}
    (lines : d.lines = before ++ (g.lines ++ after)) (block : blockLength? p g.lines = some k) :
    d.span g.start.name before.length (before.length + (k - 1)) =
      ⟨g.start.name, before.length, before.length + ((g.lines.take k).length - 1), (g.lines.take k).flatten⟩ := by
  have fits := (blockLength?_eq_some.mp block).1
  have positive := blockLength?_pos block
  rw [Document.span, Nat.add_assoc, Nat.sub_add_cancel positive, slice_lines lines fits,
    List.length_take_of_le fits]

/-- A segment that does not close fails at the next start or at the end. -/
theorem failureAt?_eq {before : List Text} {g : Segment} {gs : List Segment} (differ : p.openChar ≠ p.closeChar)
    (lines : d.lines = before ++ (g.lines ++ gs.flatMap Segment.lines)) (cut : g.WellCut p)
    (later : ∀ h ∈ gs, h.WellCut p) (block : blockLength? p g.lines = none) :
    p.failureAt? d before.length =
      some (failureAt g.start.name before.length (before.length + g.lines.length) gs) := by
  have size : d.lines.length = before.length + (g.lines.length + (gs.flatMap Segment.lines).length) := by
    simp [lines]
  rw [failureAt?, startAt?_head lines cut, blockEnd?_eq differ lines cut later, block, Option.map_none,
    nextStart_eq lines cut later]
  cases gs with
  | nil =>
    rw [List.flatMap_nil, List.length_nil] at size
    exact if_neg (by omega)
  | cons h gs =>
    simp only [List.flatMap_cons, Segment.lines, List.length_append, List.length_cons] at size
    exact if_pos (by simp only [Segment.lines, List.length_cons]; omega)

/-- An outline holds what the given lines hold one by one. -/
structure Agrees (p : ScanPatterns) (d : Document) (r : Outline) (is : List Nat) : Prop where
  declarations : r.parts.filterMap Part.span? = (upToAggregator p d is).filterMap (p.declarationAt? d)
  failures : r.failures = (upToAggregator p d is).filterMap (p.failureAt? d)
  aggregator : r.aggregator.bind Part.span? = (is.find? (p.closesAggregator d)).bind fun s =>
    (p.startAt? d s).bind fun start => (p.blockEnd? d s).map (d.span start.name s)

theorem Agrees.skip {r : Outline} {is js : List Nat} (agrees : Agrees p d r js)
    (quiet : ∀ i ∈ is, p.startAt? d i = none) : Agrees p d r (is ++ js) := by
  refine ⟨?_, ?_, ?_⟩
  · rw [agrees.declarations, filterMap_skip declarationAt?_silent quiet]
  · rw [agrees.failures, filterMap_skip failureAt?_silent quiet]
  · rw [agrees.aggregator, find?_skip quiet]

theorem Agrees.failing {r : Outline} {is : List Nat} {s : Nat} {q : Part} {failure : ScanFailure}
    (agrees : Agrees p d r is) (unnamed : q.name = none) (goes : p.blockEnd? d s = none)
    (fails : p.failureAt? d s = some failure) : Agrees p d (r.failing q failure) (s :: is) := by
  have passes : p.closesAggregator d s = false := by simp [closesAggregator, goes]
  have none : p.declarationAt? d s = none := by simp [declarationAt?, goes]
  have spanless : q.span? = Option.none := by simp [Part.span?, unnamed]
  refine ⟨?_, ?_, ?_⟩
  · rw [upToAggregator_cons passes, List.filterMap_cons_none none, ← agrees.declarations]
    exact List.filterMap_cons_none spanless
  · rw [upToAggregator_cons passes, List.filterMap_cons_some fails, ← agrees.failures]
    rfl
  · rw [List.find?_cons_of_neg (by simp [passes]), ← agrees.aggregator]
    rfl

theorem Agrees.declaring {r : Outline} {is : List Nat} {s : Nat} {q : Part} {span : Span} {left : List Part}
    (agrees : Agrees p d r is) (spanned : q.span? = some span) (residue : left.filterMap Part.span? = [])
    (passes : p.closesAggregator d s = false) (declares : p.declarationAt? d s = some span)
    (fine : p.failureAt? d s = none) : Agrees p d (r.declaring q left) (s :: is) := by
  refine ⟨?_, ?_, ?_⟩
  · rw [upToAggregator_cons passes, List.filterMap_cons_some declares, ← agrees.declarations]
    simp [Outline.declaring, spanned, residue]
  · rw [upToAggregator_cons passes, List.filterMap_cons_none fine, ← agrees.failures]
    rfl
  · rw [List.find?_cons_of_neg (by simp [passes]), ← agrees.aggregator]
    rfl

/-- What an outline holds is what the lines of its segments hold one by one. -/
theorem outline_agrees (differ : p.openChar ≠ p.closeChar) {before : List Text} {gs : List Segment}
    (lines : d.lines = before ++ gs.flatMap Segment.lines) (cut : ∀ g ∈ gs, g.WellCut p) :
    Agrees p d (outline p before.length gs) (List.range' before.length (gs.flatMap Segment.lines).length) := by
  induction gs generalizing before with
  | nil => exact ⟨rfl, rfl, rfl⟩
  | cons g gs ih =>
    rw [List.flatMap_cons] at lines
    have own := cut g (by simp)
    have later : ∀ h ∈ gs, h.WellCut p := fun h member => cut h (by simp [member])
    have start := startAt?_head lines own
    have stop := blockEnd?_eq differ lines own later
    -- The first line of the segment decides; its other lines contribute nothing.
    have quiet : ∀ i ∈ List.range' (before.length + 1) g.tail.length, p.startAt? d i = none := by
      intro i member
      rw [List.mem_range'_1] at member
      exact startAt?_tail lines own (by omega) (by simp only [Segment.lines, List.length_cons]; omega)
    have rest := @ih (before ++ g.lines) (by rw [lines, List.append_assoc]) later
    rw [List.length_append] at rest
    rw [range'_segment, outline]
    cases block : blockLength? p g.lines with
    | none =>
      rw [block, Option.map_none] at stop
      exact (rest.skip quiet).failing rfl stop (failureAt?_eq differ lines own later block)
    | some k =>
      rw [block, Option.map_some] at stop
      have span := span_eq lines block
      cases kind : g.start.aggregates with
      | true =>
        have closed : p.closesAggregator d before.length = true := by simp [closesAggregator, start, stop, kind]
        refine ⟨?_, ?_, ?_⟩
        · simp [upToAggregator, closed]
        · simp [upToAggregator, closed]
        · simp [closed, start, stop, span]
      | false =>
        refine (rest.skip quiet).declaring (Part.span?_of_name rfl) (filterMap_span?_loose _ _) ?_ ?_ ?_
        · simp [closesAggregator, start, kind]
        · simp [declarationAt?, start, stop, kind, span, Part.text]
        · simp [failureAt?, start, stop]

end Walk

/-- A scan finds exactly the declarations that close before the first aggregator that closes, in line order; it
reports the starts before it that do not close, with the next start if there is one. -/
theorem scan_segmentation (p : ScanPatterns) (d : Document) (differ : p.openChar ≠ p.closeChar) :
    (p.scan d).declarations = (p.linesBefore d).filterMap (p.declarationAt? d) ∧
      (p.scan d).failures = (p.linesBefore d).filterMap (p.failureAt? d) ∧
      (p.scan d).aggregator = p.aggregator? d := by
  obtain ⟨quiet, cut⟩ := segments_wellCut p d.lines
  have lines : d.lines = opening p d ++ (segments p d.lines).2.flatMap Segment.lines :=
    (segments_lines p d.lines).symm
  have indices : List.range d.lines.length =
      List.range' 0 (opening p d).length ++
        List.range' (opening p d).length ((segments p d.lines).2.flatMap Segment.lines).length := by
    have size := congrArg List.length lines
    rw [List.length_append] at size
    rw [List.range_eq_range', size, ← List.range'_append_1, Nat.zero_add]
  have silent : ∀ i ∈ List.range' 0 (opening p d).length, p.startAt? d i = none := by
    intro i member
    have short : i < (opening p d).length := by simpa using member
    rw [startAt?, lines, List.getElem?_append_left short, List.getElem?_eq_getElem short]
    exact quiet _ (List.getElem_mem short)
  have agrees := (outline_agrees differ lines cut).skip silent
  rw [← indices] at agrees
  rw [scan_eq_outcome]
  exact ⟨agrees.declarations, agrees.failures, agrees.aggregator⟩

/-- A document in which `b` is cut off by `c`, and the first aggregator by the second. -/
def sampleDocument : Document :=
  .ofText ⟨[]⟩ "x\nfn a \x7b\n\x7d\nfn b \x7b\nfn c \x7b\x7d\nall d \x7b\nall e \x7b\x7d\nfn f \x7b\n".toList

theorem scan_segmentation_sample :
    (sample.scan sampleDocument).declarations =
        [sampleDocument.span "a".toList 1 2, sampleDocument.span "c".toList 4 4] ∧
      (sample.scan sampleDocument).failures =
        [.interrupted "b".toList 3 4, .interrupted "d".toList 5 6] ∧
      (sample.scan sampleDocument).aggregator = some (sampleDocument.span "e".toList 6 6) := by
  obtain ⟨declarations, failures, aggregator⟩ := scan_segmentation sample sampleDocument (by decide)
  rw [declarations, failures, aggregator]
  decide +kernel

end Cleave.ScanPatterns
