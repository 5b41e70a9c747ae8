import Cleave.Proofs.Scan.Block

/-!
# Outlines

The starts of a document cut its lines into segments: a start and the lines up to the next start. What a scan
makes of a segment depends on that segment alone, so a document has an outline that is read off its segments
one by one. The main statement is `scan_eq_outcome`: the outcome of a scan is the outcome of the outline.
-/

namespace Cleave.Scan

/-- A start line and the lines after it up to the next start. -/
structure Segment where
  start : Start
  head : Text
  tail : List Text

namespace Segment

/-- All lines of a segment. -/
def lines (g : Segment) : List Text :=
  g.head :: g.tail

/-- The first line of a segment is a start, and no other line is. -/
structure WellCut (p : ScanPatterns) (g : Segment) : Prop where
  head : start? p g.head = some g.start
  tail : ∀ l ∈ g.tail, start? p l = none

end Segment

/-- The failure of a declaration at line `s` that is still open at line `i`, where the given segments start. -/
def failureAt (name : Text) (s i : Nat) : List Segment → ScanFailure
  | [] => .unterminated name s
  | _ :: _ => .interrupted name s i

/-- The lines before the first start, and the segments. -/
def segments (p : ScanPatterns) : List Text → List Text × List Segment
  | [] => ([], [])
  | l :: ls =>
    match start? p l with
    | none => (l :: (segments p ls).1, (segments p ls).2)
    | some start => ([], ⟨start, l, (segments p ls).1⟩ :: (segments p ls).2)

/-- A run of lines in an outline: a declaration, or residue if it has no name. -/
structure Part where
  name : Option Text
  first : Nat
  lines : List Text

namespace Part

/-- The text of all lines. -/
def text (q : Part) : Text :=
  q.lines.flatten

/-- The span of a declaration. -/
def span? (q : Part) : Option Span :=
  q.name.map fun name => { name, first := q.first, last := q.first + (q.lines.length - 1), text := q.text }

/-- The residue that a part without a name is. -/
def residue? (q : Part) : Option Residue :=
  if q.name.isNone then some ⟨q.first, q.text⟩ else none

@[simp]
theorem span?_declaration (name : Text) (first : Nat) (ls : List Text) :
    span? ⟨some name, first, ls⟩ = some ⟨name, first, first + (ls.length - 1), ls.flatten⟩ := rfl

theorem span?_of_name {q : Part} {name : Text} (named : q.name = some name) :
    q.span? = some ⟨name, q.first, q.first + (q.lines.length - 1), q.text⟩ :=
  congrArg (Option.map _) named

@[simp]
theorem span?_residue (first : Nat) (ls : List Text) : span? ⟨none, first, ls⟩ = none := rfl

@[simp]
theorem residue?_declaration (name : Text) (first : Nat) (ls : List Text) :
    residue? ⟨some name, first, ls⟩ = none := rfl

@[simp]
theorem residue?_residue (first : Nat) (ls : List Text) :
    residue? ⟨none, first, ls⟩ = some ⟨first, ls.flatten⟩ := rfl

end Part

/-- What a scan finds, with the lines of every part. -/
structure Outline where
  parts : List Part := []
  failures : List ScanFailure := []
  aggregator : Option Part := none
  trailing : List Text := []

/-- The residue part of the given lines, unless there are none. -/
def loose (first : Nat) (ls : List Text) : List Part :=
  if ls = [] then [] else [⟨none, first, ls⟩]

@[simp]
theorem filterMap_span?_loose (first : Nat) (ls : List Text) : (loose first ls).filterMap Part.span? = [] := by
  unfold loose
  split <;> simp

/-- Puts a part that has failed before an outline. -/
def Outline.failing (r : Outline) (q : Part) (failure : ScanFailure) : Outline :=
  { r with parts := q :: r.parts, failures := failure :: r.failures }

/-- Puts a declaration and the residue after it before an outline. -/
def Outline.declaring (r : Outline) (q : Part) (left : List Part) : Outline :=
  { r with parts := q :: left ++ r.parts }

/-- The outline of segments, the first of which is at line `s`. -/
def outline (p : ScanPatterns) : (s : Nat) → List Segment → Outline
  | _, [] => {}
  | s, g :: gs =>
    match blockLength? p g.lines with
    | some k =>
      if g.start.aggregates then
        { aggregator := some ⟨some g.start.name, s, g.lines.take k⟩
          trailing := g.lines.drop k ++ gs.flatMap Segment.lines }
      else
        (outline p (s + g.lines.length) gs).declaring ⟨some g.start.name, s, g.lines.take k⟩
          (loose (s + k) (g.lines.drop k))
    | none =>
      (outline p (s + g.lines.length) gs).failing ⟨none, s, g.lines⟩
        (failureAt g.start.name s (s + g.lines.length) gs)

/-- Adds what an outline holds to the outcome of the lines before it. -/
def Outline.addTo (o : ScanOutcome) (r : Outline) : ScanOutcome :=
  { preamble := o.preamble
    declarations := o.declarations ++ r.parts.filterMap Part.span?
    residue := o.residue ++ r.parts.filterMap Part.residue?
    aggregator := r.aggregator.bind Part.span?
    trailing := r.trailing.flatten
    failures := o.failures ++ r.failures }

theorem segments_lines (p : ScanPatterns) (ls : List Text) :
    (segments p ls).1 ++ (segments p ls).2.flatMap Segment.lines = ls := by
  induction ls with
  | nil => rfl
  | cons l ls ih =>
    simp only [segments]
    split
    · simp [ih]
    · simp [Segment.lines, ih]

theorem segments_wellCut (p : ScanPatterns) (ls : List Text) :
    (∀ l ∈ (segments p ls).1, start? p l = none) ∧ ∀ g ∈ (segments p ls).2, g.WellCut p := by
  induction ls with
  | nil => simp [segments]
  | cons l ls ih =>
    simp only [segments]
    split
    · rename_i quiet
      exact ⟨by simpa [quiet] using ih.1, ih.2⟩
    · rename_i start found
      refine ⟨by simp, fun g member => ?_⟩
      rcases List.mem_cons.mp member with rfl | member
      · exact ⟨found, ih.1⟩
      · exact ih.2 g member

namespace Progress

/-- Goes on after a line with the remaining lines. -/
def Next.resume (p : ScanPatterns) (i : Nat) (rest : List Text) : Next → ScanOutcome
  | .more q => run p (i + 1) q rest
  | .closed o => { o with trailing := rest.flatten }

theorem run_cons (p : ScanPatterns) (i : Nat) (q : Progress) (l : Text) (rest : List Text) :
    run p i q (l :: rest) = (q.step p i l).resume p i rest := by
  rw [run]
  cases q.step p i l <;> rfl

/-- Pending lines become a residue part. -/
theorem flush_eq (q : Progress) (i : Nat) :
    q.flush i =
      { q with
        outcome :=
          { q.outcome with
            residue := q.outcome.residue ++ (loose q.cursor q.pending).filterMap Part.residue? }
        pending := [], cursor := i } := by
  unfold flush loose
  split
  · rename_i none
    simp [none]
  · rfl

/-- The outcome once the pending lines are residue and the open declaration, if there is one, has failed. -/
def settled (q : Progress) (failure : OpenBody → ScanFailure) : ScanOutcome :=
  { q.outcome with
    residue := q.outcome.residue ++ (loose q.cursor q.pending).filterMap Part.residue?
    failures := q.outcome.failures ++ (q.body.map failure).toList }

/-- Progress right after a start at line `i`, before the line itself is taken in. -/
def begun (o : ScanOutcome) (i : Nat) (body : OpenBody) : Progress :=
  { outcome := o, pending := [], cursor := i, started := true, body := some body }

/-- The declaration that a start at line `i` opens. -/
def fresh (start : Start) (i : Nat) : OpenBody :=
  { name := start.name, first := i, aggregates := start.aggregates }

theorem step_open {p : ScanPatterns} {q : Progress} {b : OpenBody} {l : Text} (i : Nat)
    (body : q.body = some b) (quiet : start? p l = none) : q.step p i l = takeBody p q b i l := by
  simp [step, body, quiet]

theorem step_seek {p : ScanPatterns} {q : Progress} {l : Text} (i : Nat)
    (body : q.body = none) (quiet : start? p l = none) :
    q.step p i l = .more { q with pending := q.pending ++ [l] } := by
  simp [step, body, quiet]

/-- A later start gives up what is still open and opens its own declaration. -/
theorem step_start {p : ScanPatterns} {q : Progress} {l : Text} {start : Start} (i : Nat)
    (started : q.started = true) (found : start? p l = some start) :
    q.step p i l =
      takeBody p (begun (q.settled fun b => .interrupted b.name b.first i) i (fresh start i))
        (fresh start i) i l := by
  cases body : q.body with
  | none => simp [step, body, found, begin, started, settled, begun, fresh, flush_eq]
  | some b => simp [step, body, found, begin, started, settled, begun, fresh, flush_eq, interrupt, loose]

theorem finish_started {q : Progress} (i : Nat) (started : q.started = true) :
    q.finish i = q.settled fun b => .unterminated b.name b.first := by
  cases body : q.body with
  | none => simp [finish, body, started, settled, flush_eq]
  | some b => simp [finish, body, settled, flush_eq]

theorem takeBody_open {p : ScanPatterns} {q : Progress} {b : OpenBody} {l : Text} (i : Nat)
    (counts : b.Counts p q.pending) (still : closes p (q.pending ++ [l]) = false) :
    takeBody p q b i l = .more { q with pending := q.pending ++ [l], body := some (b.countLine p l) } := by
  simp [takeBody, counts.closesOn, still]

theorem takeBody_close {p : ScanPatterns} {q : Progress} {b : OpenBody} {l : Text} (i : Nat)
    (counts : b.Counts p q.pending) (closed : closes p (q.pending ++ [l]) = true) :
    takeBody p q b i l =
      if b.aggregates then
        .closed { q.outcome with aggregator := some ⟨b.name, b.first, i, (q.pending ++ [l]).flatten⟩ }
      else
        .more { q with
          outcome :=
            { q.outcome with
              declarations := q.outcome.declarations ++ [⟨b.name, b.first, i, (q.pending ++ [l]).flatten⟩] }
          pending := [], cursor := i + 1, body := none } := by
  simp only [takeBody, counts.closesOn, closed, if_true]
  simp only [OpenBody.countLine_eq]

/-- Lines that are no starts wait for the next start. -/
theorem run_seek {p : ScanPatterns} {q : Progress} {ls : List Text} (i : Nat) (rest : List Text)
    (body : q.body = none) (quiet : ∀ l ∈ ls, start? p l = none) :
    run p i q (ls ++ rest) = run p (i + ls.length) { q with pending := q.pending ++ ls } rest := by
  induction ls generalizing i q with
  | nil => simp
  | cons l ls ih =>
    rw [List.cons_append, run_cons, step_seek i body (quiet l (by simp)), Next.resume,
      ih (q := { q with pending := q.pending ++ [l] }) (i + 1) body fun m member => quiet m (by simp [member])]
    simp [Nat.add_assoc, Nat.add_comm 1]

/-- Lines on which an open declaration does not close leave it open. -/
theorem resume_open {p : ScanPatterns} {q : Progress} {b : OpenBody} {l : Text} {ls : List Text} (i : Nat)
    (rest : List Text) (counts : b.Counts p q.pending) (quiet : ∀ m ∈ ls, start? p m = none)
    (still : ∀ k, k ≤ ls.length → closes p (q.pending ++ l :: ls.take k) = false) :
    (takeBody p q b i l).resume p i (ls ++ rest) =
      run p (i + (ls.length + 1))
        { q with pending := q.pending ++ l :: ls, body := some (b.countLine p (l :: ls).flatten) } rest := by
  have first : closes p (q.pending ++ [l]) = false := by simpa using still 0 (by simp)
  have counted := counts.countLine [l]
  rw [List.flatten_singleton] at counted
  rw [takeBody_open i counts first, Next.resume]
  induction ls generalizing i q b l with
  | nil => simp
  | cons m ls ih =>
    have next : closes p (q.pending ++ [l] ++ [m]) = false := by simpa using still 1 (by simp)
    have counted' := counted.countLine [m]
    rw [List.flatten_singleton] at counted'
    rw [List.cons_append, run_cons, step_open (i + 1) rfl (quiet m (by simp)),
      takeBody_open (i + 1) counted next, Next.resume,
      ih (q := { q with pending := q.pending ++ [l], body := some (b.countLine p l) }) (l := m) (i + 1) counted
        (fun n member => quiet n (by simp [member]))
        (fun k short => by simpa using still (k + 1) (by simpa using short)) next counted']
    simp [OpenBody.countLine_append, Nat.add_assoc, Nat.add_comm 1]

/-- The outcome of a scan in which a declaration has closed on the line before `i`. -/
def withSpan (q : Progress) (span : Span) (i : Nat) : Progress :=
  { q with
    outcome := { q.outcome with declarations := q.outcome.declarations ++ [span] }
    pending := [], cursor := i, body := none }

/-- A declaration closes on the last of the given lines, and not before. -/
theorem resume_close {p : ScanPatterns} {q : Progress} {b : OpenBody} {l : Text} {ls : List Text} (i : Nat)
    (rest : List Text) (counts : b.Counts p q.pending) (quiet : ∀ m ∈ ls, start? p m = none)
    (still : ∀ k, k < ls.length → closes p (q.pending ++ l :: ls.take k) = false)
    (closed : closes p (q.pending ++ l :: ls) = true) :
    (takeBody p q b i l).resume p i (ls ++ rest) =
      let span : Span := ⟨b.name, b.first, i + ls.length, (q.pending ++ l :: ls).flatten⟩
      if b.aggregates then { q.outcome with aggregator := some span, trailing := rest.flatten }
      else run p (i + (ls.length + 1)) (q.withSpan span (i + (ls.length + 1))) rest := by
  rcases List.eq_nil_or_concat ls with rfl | ⟨init, m, rfl⟩
  · rw [takeBody_close i counts closed]
    split
    · rfl
    · rfl
  · simp only [List.concat_eq_append, List.length_append, List.length_singleton] at quiet still closed ⊢
    rw [List.append_assoc, resume_open i ([m] ++ rest) counts (fun n member => quiet n (by simp [member]))
      (fun k short => by simpa [List.take_append_of_le_length short] using still k (by omega))]
    have counted := counts.countLine (l :: init)
    have last : closes p (q.pending ++ l :: init ++ [m]) = true := by simpa using closed
    rw [List.singleton_append, run_cons, step_open _ rfl (quiet m (by simp)), takeBody_close _ counted last]
    simp only [OpenBody.countLine_eq]
    split
    · simp [Next.resume]
    · simp [Next.resume, withSpan, Nat.add_assoc]

/-- One segment either closes or stays open up to the next start. -/
theorem resume_segment {p : ScanPatterns} {g : Segment} (cut : g.WellCut p) (o : ScanOutcome) (i : Nat)
    (rest : List Text) :
    (takeBody p (begun o i (fresh g.start i)) (fresh g.start i) i g.head).resume p i (g.tail ++ rest) =
      match blockLength? p g.lines with
      | some k =>
        let span : Span := ⟨g.start.name, i, i + (k - 1), (g.lines.take k).flatten⟩
        if g.start.aggregates then
          { o with aggregator := some span, trailing := (g.lines.drop k ++ rest).flatten }
        else
          run p (i + g.lines.length)
            { outcome := { o with declarations := o.declarations ++ [span] }
              pending := g.lines.drop k, cursor := i + k, started := true, body := none } rest
      | none =>
        run p (i + g.lines.length)
          { outcome := o, pending := g.lines, cursor := i, started := true
            body := some ((fresh g.start i).countLine p g.lines.flatten) } rest := by
  have counts := OpenBody.counts_nil p g.start.name i g.start.aggregates
  cases block : blockLength? p g.lines with
  | none =>
    have never := blockLength?_eq_none.mp block
    exact resume_open i rest counts cut.tail fun k short => never (k + 1) (Nat.succ_le_succ short)
  | some k =>
    obtain ⟨short, closed, before⟩ := blockLength?_eq_some.mp block
    obtain ⟨m, rfl⟩ := Nat.exists_eq_succ_of_ne_zero (Nat.ne_of_gt (blockLength?_pos block))
    have fits : m ≤ g.tail.length := Nat.le_of_succ_le_succ short
    have length : (g.tail.take m).length = m := by simp [fits]
    -- The lines of the block and the lines after it, up to the next start, are taken apart.
    have close := resume_close (q := begun o i (fresh g.start i)) (l := g.head) i (g.tail.drop m ++ rest) counts
      (fun l member => cut.tail l (List.mem_of_mem_take member))
      (fun j small => by
        rw [length] at small
        rw [List.take_take, Nat.min_eq_left (Nat.le_of_lt small)]
        exact before (j + 1) (Nat.succ_lt_succ small)) closed
    rw [length, ← List.append_assoc, List.take_append_drop] at close
    refine close.trans ?_
    simp only [fresh]
    split
    · rfl
    · rw [run_seek _ rest rfl fun l member => cut.tail l (List.mem_of_mem_drop member)]
      have reach : i + (m + 1) + (g.tail.drop m).length = i + g.lines.length := by
        simp only [List.length_drop, Segment.lines, List.length_cons]
        omega
      rw [reach]
      rfl

/-- An outcome in which no aggregator has been found. -/
def Unclosed (o : ScanOutcome) : Prop :=
  o.aggregator = none ∧ o.trailing = []

/-- A segment and the segments after it add their outline to what was there before. -/
theorem resume_segments {p : ScanPatterns} {g : Segment} {gs : List Segment} {o : ScanOutcome} (i : Nat)
    (cut : g.WellCut p) (unclosed : Unclosed o)
    (after : ∀ (q : Progress) (j : Nat), q.started = true → Unclosed q.outcome →
      run p j q (gs.flatMap Segment.lines) =
        (outline p j gs).addTo (q.settled fun b => failureAt b.name b.first j gs)) :
    (takeBody p (begun o i (fresh g.start i)) (fresh g.start i) i g.head).resume p i
        (g.tail ++ gs.flatMap Segment.lines) = (outline p i (g :: gs)).addTo o := by
  rw [resume_segment cut, outline]
  cases block : blockLength? p g.lines with
  | none =>
    simp only
    rw [after _ _ rfl unclosed]
    simp [Outline.addTo, Outline.failing, settled, loose, Segment.lines, fresh, OpenBody.countLine_eq,
      List.filterMap_cons]
  | some k =>
    have length : (g.lines.take k).length = k := by simp [(blockLength?_eq_some.mp block).1]
    simp only
    split
    · simp [Outline.addTo, length]
    · rw [after _ _ rfl unclosed]
      simp [Outline.addTo, Outline.declaring, settled, length, List.filterMap_cons]

/-- Once a declaration has started, a scan adds the outline of the remaining segments to what it has. -/
theorem run_segments {p : ScanPatterns} {q : Progress} {gs : List Segment} (i : Nat) (started : q.started = true)
    (unclosed : Unclosed q.outcome) (cut : ∀ g ∈ gs, g.WellCut p) :
    run p i q (gs.flatMap Segment.lines) =
      (outline p i gs).addTo (q.settled fun b => failureAt b.name b.first i gs) := by
  induction gs generalizing q i with
  | nil =>
    rw [List.flatMap_nil, run, finish_started i started]
    simp [outline, Outline.addTo, settled, failureAt, unclosed.1, unclosed.2]
  | cons g gs ih =>
    rw [List.flatMap_cons, Segment.lines, List.cons_append, run_cons, step_start i started (cut g (by simp)).head]
    exact resume_segments i (cut g (by simp)) unclosed
      fun q j started unclosed => ih j started unclosed fun h member => cut h (by simp [member])

end Progress

/-- The lines of a document before its first start. -/
def opening (p : ScanPatterns) (d : Document) : List Text :=
  (segments p d.lines).1

/-- The outline of a document. -/
def outlineOf (p : ScanPatterns) (d : Document) : Outline :=
  outline p (opening p d).length (segments p d.lines).2

/-- The outcome of a scan is read off the segments of the document. -/
theorem scan_eq_outcome (p : ScanPatterns) (d : Document) :
    p.scan d = (outlineOf p d).addTo { preamble := (opening p d).flatten } := by
  obtain ⟨quiet, cut⟩ := segments_wellCut p d.lines
  have split := segments_lines p d.lines
  rw [ScanPatterns.scan, outlineOf, opening]
  revert quiet cut split
  generalize (segments p d.lines).1 = before
  generalize (segments p d.lines).2 = gs
  intro quiet cut split
  rw [← split, Progress.run_seek 0 _ rfl quiet, Nat.zero_add]
  cases gs with
  | nil => simp [Progress.run, Progress.finish, outline, Outline.addTo]
  | cons g gs =>
    rw [List.flatMap_cons, Segment.lines, List.cons_append, Progress.run_cons]
    have begins : Progress.step p { pending := before } before.length g.head =
        Progress.takeBody p
          (Progress.begun { preamble := before.flatten } before.length (Progress.fresh g.start before.length))
          (Progress.fresh g.start before.length) before.length g.head := by
      simp [Progress.step, (cut g (by simp)).head, Progress.begin, Progress.begun, Progress.fresh]
    rw [List.nil_append, begins]
    exact Progress.resume_segments _ (cut g (by simp)) ⟨rfl, rfl⟩ fun q j started unclosed =>
      Progress.run_segments j started unclosed fun h member => cut h (by simp [member])

/-! ## Where the parts of an outline are -/

/-- All parts of an outline, the aggregator last. -/
def Outline.all (r : Outline) : List Part :=
  r.parts ++ r.aggregator.toList

theorem Outline.all_declaring (r : Outline) (q : Part) (left : List Part) :
    (r.declaring q left).all = q :: (left ++ r.all) := by
  simp [all, declaring]

theorem Outline.all_failing (r : Outline) (q : Part) (failure : ScanFailure) :
    (r.failing q failure).all = q :: r.all := rfl

theorem take_ne_nil {p : ScanPatterns} {ls : List Text} {k : Nat} (block : blockLength? p ls = some k) :
    ls.take k ≠ [] := by
  intro none
  have closed := (blockLength?_eq_some.mp block).2.1
  simp [none, closes_nil] at closed

/-- Parts that follow one another without a gap, the first at line `s`, and none without a line. -/
def Tiled : (s : Nat) → List Part → Prop
  | _, [] => True
  | s, q :: qs => q.first = s ∧ q.lines ≠ [] ∧ Tiled (s + q.lines.length) qs

theorem flatMap_lines_loose (first : Nat) (ls : List Text) : (loose first ls).flatMap Part.lines = ls := by
  unfold loose
  split
  · rename_i none
    simp [none]
  · simp

theorem tiled_loose {s : Nat} {ls : List Text} {qs : List Part} (tiled : Tiled (s + ls.length) qs) :
    Tiled s (loose s ls ++ qs) := by
  unfold loose
  split
  · rename_i none
    simpa [none] using tiled
  · rename_i filled
    exact ⟨rfl, filled, tiled⟩

/-- No line of a segment is left out. -/
theorem outline_lines (p : ScanPatterns) (s : Nat) (gs : List Segment) :
    (outline p s gs).all.flatMap Part.lines ++ (outline p s gs).trailing = gs.flatMap Segment.lines := by
  fun_induction outline p s gs with
  | case1 => rfl
  | case2 s g gs k block aggregates => simp [Outline.all, ← List.append_assoc]
  | case3 s g gs k block regular ih =>
    rw [List.flatMap_cons, ← ih, Outline.all_declaring]
    simp [Outline.declaring, flatMap_lines_loose, ← List.append_assoc]
  | case4 s g gs block ih =>
    rw [List.flatMap_cons, ← ih, Outline.all_failing]
    simp [Outline.failing]

theorem outline_tiled (p : ScanPatterns) (s : Nat) (gs : List Segment) : Tiled s (outline p s gs).all := by
  fun_induction outline p s gs with
  | case1 => trivial
  | case2 s g gs k block aggregates => exact ⟨rfl, take_ne_nil block, trivial⟩
  | case3 s g gs k block regular ih =>
    have fits := (blockLength?_eq_some.mp block).1
    have reach : s + k + (g.lines.drop k).length = s + g.lines.length := by
      rw [List.length_drop]
      omega
    rw [Outline.all_declaring]
    refine ⟨rfl, take_ne_nil block, ?_⟩
    rw [List.length_take, Nat.min_eq_left fits]
    exact tiled_loose (by rwa [reach])
  | case4 s g gs block ih => exact ⟨rfl, by simp [Segment.lines], ih⟩

/-- A part of a tiling holds the lines at its place. -/
theorem Tiled.exists_lines {s : Nat} {qs : List Part} {q : Part} (tiled : Tiled s qs) (member : q ∈ qs) :
    ∃ a b, qs.flatMap Part.lines = a ++ q.lines ++ b ∧ q.first = s + a.length ∧ q.lines ≠ [] := by
  induction qs generalizing s with
  | nil => simp at member
  | cons r qs ih =>
    obtain ⟨first, filled, rest⟩ := tiled
    rcases List.mem_cons.mp member with rfl | member
    · exact ⟨[], qs.flatMap Part.lines, by simp, by simpa using first, filled⟩
    · obtain ⟨a, b, lines, place, filled⟩ := ih rest member
      refine ⟨r.lines ++ a, b, ?_, ?_, filled⟩
      · simp [lines]
      · rw [place, List.length_append]
        omega

theorem opening_append (p : ScanPatterns) (d : Document) :
    opening p d ++ ((outlineOf p d).all.flatMap Part.lines ++ (outlineOf p d).trailing) = d.lines := by
  rw [outlineOf, outline_lines]
  exact segments_lines p d.lines

/-- A part of a document's outline holds the lines at its place. -/
theorem exists_lines_of_mem {p : ScanPatterns} {d : Document} {q : Part} (member : q ∈ (outlineOf p d).all) :
    ∃ a b, d.lines = a ++ q.lines ++ b ∧ q.first = a.length ∧ q.lines ≠ [] := by
  obtain ⟨a, b, lines, place, filled⟩ := (outline_tiled p _ _).exists_lines member
  refine ⟨opening p d ++ a, b ++ (outlineOf p d).trailing, ?_, by simpa using place, filled⟩
  rw [← opening_append p d]
  simp only [outlineOf] at lines ⊢
  simp [lines]

/-! ## What the parts of an outline are -/

/-- Lines that form a declaration: the first is the start, no other is one, and they close on the last. -/
structure IsDeclaration (p : ScanPatterns) (start : Start) (ls : List Text) : Prop where
  block : IsBlock p ls
  starts : ∃ l rest, ls = l :: rest ∧ start? p l = some start ∧ ∀ m ∈ rest, start? p m = none

theorem Segment.WellCut.isDeclaration {p : ScanPatterns} {g : Segment} {k : Nat} (cut : g.WellCut p)
    (block : blockLength? p g.lines = some k) : IsDeclaration p g.start (g.lines.take k) := by
  obtain ⟨m, rfl⟩ := Nat.exists_eq_succ_of_ne_zero (Nat.ne_of_gt (blockLength?_pos block))
  exact ⟨isBlock_take block, g.head, g.tail.take m, rfl, cut.head,
    fun l member => cut.tail l (List.mem_of_mem_take member)⟩

theorem mem_loose {first : Nat} {ls : List Text} {q : Part} (member : q ∈ loose first ls) :
    q = ⟨none, first, ls⟩ := by
  unfold loose at member
  split at member
  · simp at member
  · simpa using member

/-- A part with a name is a declaration that is no aggregator. -/
theorem outline_declaration {p : ScanPatterns} {s : Nat} {gs : List Segment} (cut : ∀ g ∈ gs, g.WellCut p)
    {q : Part} {name : Text} (member : q ∈ (outline p s gs).parts) (named : q.name = some name) :
    IsDeclaration p ⟨name, false⟩ q.lines := by
  fun_induction outline p s gs with
  | case1 => simp at member
  | case2 s g gs k block aggregates => simp at member
  | case3 s g gs k block regular ih =>
    rcases List.mem_append.mp member with front | later
    · rcases List.mem_cons.mp front with rfl | left
      · have declares := (cut g (by simp)).isDeclaration block
        have kind : g.start.aggregates = false := by simpa using regular
        cases named
        rwa [← kind]
      · rw [mem_loose left] at named
        simp at named
    · exact ih (fun h inside => cut h (by simp [inside])) later
  | case4 s g gs block ih =>
    rcases List.mem_cons.mp member with rfl | later
    · simp at named
    · exact ih (fun h inside => cut h (by simp [inside])) later

theorem outline_aggregator {p : ScanPatterns} {s : Nat} {gs : List Segment} (cut : ∀ g ∈ gs, g.WellCut p)
    {q : Part} (found : (outline p s gs).aggregator = some q) :
    ∃ name, q.name = some name ∧ IsDeclaration p ⟨name, true⟩ q.lines := by
  fun_induction outline p s gs with
  | case1 => simp at found
  | case2 s g gs k block aggregates =>
    have declares := (cut g (by simp)).isDeclaration block
    cases found
    refine ⟨g.start.name, rfl, ?_⟩
    rwa [← aggregates]
  | case3 s g gs k block regular ih => exact ih (fun h inside => cut h (by simp [inside])) found
  | case4 s g gs block ih => exact ih (fun h inside => cut h (by simp [inside])) found

/-- Unless a declaration has failed, residue holds no start. -/
theorem outline_residue {p : ScanPatterns} {s : Nat} {gs : List Segment} (cut : ∀ g ∈ gs, g.WellCut p)
    (clean : (outline p s gs).failures = []) {q : Part} (member : q ∈ (outline p s gs).parts)
    (unnamed : q.name = none) : ∀ l ∈ q.lines, start? p l = none := by
  fun_induction outline p s gs with
  | case1 => simp at member
  | case2 s g gs k block aggregates => simp at member
  | case3 s g gs k block regular ih =>
    rcases List.mem_append.mp member with front | later
    · rcases List.mem_cons.mp front with rfl | left
      · simp at unnamed
      · rw [mem_loose left]
        obtain ⟨m, rfl⟩ := Nat.exists_eq_succ_of_ne_zero (Nat.ne_of_gt (blockLength?_pos block))
        exact fun l inside => (cut g (by simp)).tail l (List.mem_of_mem_drop inside)
    · exact ih (fun h inside => cut h (by simp [inside])) clean later
  | case4 s g gs block ih => simp [Outline.failing] at clean

end Cleave.Scan
