import Cleave.Proofs.Plan.Root
import Cleave.Proofs.Scan.Held

/-!
# Pieces of text in the root

A piece of text loses lines of terminators at its ends when it is put into the root, and its last line gets a line
feed for its terminator. No line becomes a start by that or gets the closing marker, and a declaration that does not
close does not begin to.
-/

namespace Cleave

/-- A line with a line feed for its terminator. -/
def Text.refeed (l : Text) : Text :=
  Text.trimEndOf Text.isTerminator l ++ ['\n']

/-- Patterns that look for nothing in line terminators. -/
structure ScanPatterns.TrimSafe (p : ScanPatterns) : Prop where
  empty : Scan.start? p [] = none
  opens : Text.isTerminator p.openChar = false
  closes : Text.isTerminator p.closeChar = false
  marker : Text.isBlank p.closingMarker = false
  single : '\n' ∉ p.closingMarker

namespace Renderer

open Text

/-- A piece of text in the root: an empty line, and the lines that are left. -/
theorem lines_chunk {ls init : List Text} {m : Text} (trimmed : Trimmed ls init m) (lined : Lined ls)
    (clean : ∀ l ∈ ls, StartsClean l) (filled : isBlank ls.flatten = false) :
    lines (chunk ls.flatten) = ['\n'] :: (init ++ [refeed m]) := by
  have kept := trimmed.trimOf_flatten lined clean
  obtain ⟨ends, front, single⟩ := trimmed.lined lined
  have visible : isBlank (trimOf isTerminator ls.flatten) = false := (isBlank_trimOf _).trans filled
  simp only [chunk, visible]
  rw [if_neg Bool.false_ne_true, kept, List.cons_append, lines, if_pos rfl, List.append_assoc, lines_append ends,
    lines_flatten front, lines_append_feed single []]
  rfl

theorem exists_lines_chunk {ls : List Text} (lined : Lined ls) (clean : ∀ l ∈ ls, StartsClean l)
    (filled : isBlank ls.flatten = false) :
    ∃ init m, Trimmed ls init m ∧ lines (chunk ls.flatten) = ['\n'] :: (init ++ [refeed m]) := by
  rcases exists_trimmed ls with bare | ⟨init, m, trimmed⟩
  · rw [(IsBare.flatten bare).isBlank] at filled
    cases filled
  · exact ⟨init, m, trimmed, lines_chunk trimmed lined clean filled⟩

/-- What holds of lines with a line feed for their terminator holds of the lines of a piece of text in the root. -/
theorem forall_lines_chunk {motive : Text → Prop} {ls : List Text} (lined : Lined ls)
    (clean : ∀ l ∈ ls, StartsClean l) (feed : motive ['\n']) (same : ∀ l ∈ ls, motive l)
    (last : ∀ l ∈ ls, ¬IsBare l → motive (refeed l)) : ∀ l ∈ lines (chunk ls.flatten), motive l := by
  cases blank : isBlank ls.flatten with
  | true =>
    rw [chunk_of_blank blank]
    exact List.forall_mem_nil _
  | false =>
    obtain ⟨init, m, trimmed, cut⟩ := exists_lines_chunk lined clean blank
    have inside {l : Text} (member : l ∈ init ++ [m]) : l ∈ ls := trimmed.subset member
    rw [cut, List.forall_mem_cons, List.forall_mem_append, List.forall_mem_singleton]
    exact ⟨feed, fun l member => same l (inside (by simp [member])), last m (inside (by simp)) trimmed.last⟩

end Renderer

namespace Scan

variable {p : ScanPatterns} {table : RuleTable} {name : Text} {near : Bool}

theorem start?_trimEndOf (p : ScanPatterns) (l : Text) :
    start? p (Text.trimEndOf Text.isTerminator l) = start? p l := by
  simp only [start?, Text.trimEndOf_trimEndOf]

theorem start?_refeed (p : ScanPatterns) (l : Text) : start? p l.refeed = start? p l := by
  rw [← start?_trimEndOf, Text.refeed, Text.trimEndOf_concat (by rfl), Text.trimEndOf_trimEndOf, start?_trimEndOf]

theorem start?_bare (empty : start? p [] = none) {l : Text} (bare : l.IsBare) : start? p l = none := by
  rw [← start?_trimEndOf, Text.trimEndOf_of_bare bare]
  exact empty

theorem start?_emptyLine (safe : p.TrimSafe) : start? p ['\n'] = none :=
  (start?_refeed p []).trans safe.empty

/-- A marker without a line feed that is in a line with another terminator is in the line. -/
theorem occursIn_refeed (safe : p.TrimSafe) {l : Text} (unmarked : Text.occursIn p.closingMarker l = false) :
    Text.occursIn p.closingMarker l.refeed = false := by
  rw [Bool.eq_false_iff, Ne, occursIn_iff] at unmarked ⊢
  intro inside
  obtain ⟨u, -, same⟩ := Text.exists_trimEndOf l
  rcases List.infix_concat_iff.mp inside with suffix | inner
  · rcases List.suffix_concat_iff.mp suffix with none | ⟨t, cut, -⟩
    · exact unmarked (none ▸ List.nil_infix)
    · exact safe.single (cut ▸ List.mem_append_right t (List.mem_singleton_self _))
  · rw [same] at unmarked
    exact unmarked (inner.trans (List.prefix_append _ u).isInfix)

theorem occursIn_emptyLine (safe : p.TrimSafe) : Text.occursIn p.closingMarker ['\n'] = false := by
  refine occursIn_refeed safe (l := []) ?_
  have marker := safe.marker
  cases filled : p.closingMarker with
  | nil =>
    rw [filled] at marker
    cases marker
  | cons c t => rfl

theorem startsClean_refeed {l : Text} (clean : l.StartsClean) (filled : ¬l.IsBare) : l.refeed.StartsClean := by
  obtain ⟨u, bare, same⟩ := Text.exists_trimEndOf l
  rw [Text.StartsClean, Text.refeed]
  cases kept : Text.trimEndOf Text.isTerminator l with
  | nil =>
    rw [kept] at same
    exact absurd (same ▸ bare) filled
  | cons c t =>
    intro head
    rw [kept] at same
    have first : l.head? = some '\r' := by
      rw [same]
      exact head
    exact absurd (clean first) filled

theorem startsClean_chunk {ls : List Text} (lined : Text.Lined ls) (clean : ∀ l ∈ ls, Text.StartsClean l) :
    ∀ l ∈ Text.lines (Renderer.chunk ls.flatten), Text.StartsClean l :=
  Renderer.forall_lines_chunk lined clean Text.startsClean_emptyLine clean
    fun l member filled => startsClean_refeed (clean l member) filled

theorem excess_of_bare (safe : p.TrimSafe) {u : Text} (bare : u.IsBare) : excess p u = 0 := by
  induction u with
  | nil => rfl
  | cons c u ih =>
    have terminator := bare c List.mem_cons_self
    have opens : c ≠ p.openChar := fun same => by simp [same, safe.opens] at terminator
    have closes : c ≠ p.closeChar := fun same => by simp [same, safe.closes] at terminator
    rw [excess, weight, if_neg opens, if_neg closes, ih fun d member => bare d (List.mem_cons_of_mem _ member),
      Int.add_zero]

/-- Lines do not begin to close when the terminator of the last one is replaced. -/
theorem closes_refeed (safe : p.TrimSafe) {init : List Text} {m : Text} (still : closes p (init ++ [m]) = false) :
    closes p (init ++ [m.refeed]) = false := by
  obtain ⟨u, bare, same⟩ := Text.exists_trimEndOf m
  rw [Bool.eq_false_iff] at still ⊢
  refine fun closed => still ?_
  simp only [closes, Bool.and_eq_true, beq_iff_eq, List.flatten_append, List.flatten_singleton, List.getLast?_concat,
    Option.any_some, List.contains_iff_mem, List.mem_append, excess_append] at closed ⊢
  obtain ⟨⟨balanced, opened⟩, marked⟩ := closed
  refine ⟨⟨?_, ?_⟩, ?_⟩
  · have feed : excess p ['\n'] = 0 := excess_of_bare safe (by simp [Text.IsBare, Text.isTerminator])
    rw [Text.refeed, excess_append, feed] at balanced
    rw [same, excess_append, excess_of_bare safe bare]
    exact balanced
  · refine opened.imp_right fun inside => ?_
    rcases List.mem_append.mp inside with kept | feed
    · rw [same]
      exact List.mem_append_left _ kept
    · have terminator := safe.opens
      rw [List.mem_singleton.mp feed] at terminator
      cases terminator
  · by_contra unmarked
    rw [Bool.not_eq_true] at unmarked
    rw [occursIn_refeed safe unmarked] at marked
    cases marked

theorem blockLength?_refeed (safe : p.TrimSafe) {init more : List Text} {m : Text}
    (stuck : blockLength? p (init ++ m :: more) = none) : blockLength? p (init ++ [m.refeed]) = none := by
  rw [blockLength?_eq_none] at stuck ⊢
  intro k below
  rw [List.length_append, List.length_singleton] at below
  by_cases short : k ≤ init.length
  · have still := stuck k (by rw [List.length_append]; omega)
    rwa [List.take_append_of_le_length short] at still ⊢
  · obtain rfl : k = init.length + 1 := by omega
    have still := stuck (init.length + 1) (by simp)
    rw [List.take_append, List.take_of_length_le (by omega), Nat.add_sub_cancel_left] at still ⊢
    exact closes_refeed safe still

/-- A declaration that is not blank is one in the root, and does not close if it did not before. -/
theorem Segment.WellCut.exists_chunk (safe : p.TrimSafe) {g : Segment} (cut : g.WellCut p) (lined : Text.Lined g.lines)
    (clean : ∀ l ∈ g.lines, Text.StartsClean l) (filled : Text.isBlank g.lines.flatten = false) :
    ∃ h : Segment, Text.lines (Renderer.chunk g.lines.flatten) = ['\n'] :: h.lines ∧ h.WellCut p ∧
      h.start = g.start ∧ Text.isBlank h.lines.flatten = false ∧
      (blockLength? p g.lines = none → blockLength? p h.lines = none) := by
  obtain ⟨init, m, trimmed, lines⟩ := Renderer.exists_lines_chunk lined clean filled
  have visible : Text.isBlank (init ++ [m.refeed]).flatten = false := by
    rw [← Text.isBlank_trimOf, trimmed.trimOf_flatten lined clean] at filled
    rw [List.flatten_append, List.flatten_singleton, Text.refeed, ← List.append_assoc, Text.isBlank,
      List.all_append, ← Text.isBlank, filled, Bool.false_and]
  obtain ⟨lead, blanks, whole, bare, -⟩ := trimmed.cut
  have first : lead = [] := by
    -- a line of terminators is no start
    cases lead with
    | nil => rfl
    | cons l lead =>
      rw [Segment.lines, List.cons_append] at whole
      have found := cut.head
      rw [(List.cons.inj whole).1, start?_bare safe.empty (bare l List.mem_cons_self)] at found
      cases found
  rw [first, List.nil_append] at whole
  have stays (stuck : blockLength? p g.lines = none) : blockLength? p (init ++ [m.refeed]) = none := by
    rw [whole] at stuck
    exact blockLength?_refeed safe stuck
  obtain ⟨start, head, tail⟩ := g
  cases init with
  | nil =>
    obtain ⟨rfl, -⟩ := List.cons.inj whole
    exact ⟨⟨start, head.refeed, []⟩, lines, ⟨(start?_refeed p head).trans cut.head, List.forall_mem_nil _⟩, rfl,
      visible, stays⟩
  | cons l init =>
    obtain ⟨rfl, rfl⟩ := List.cons.inj whole
    refine ⟨⟨start, head, init ++ [m.refeed]⟩, lines, ⟨cut.head, ?_⟩, rfl, visible, stays⟩
    rw [List.forall_mem_append, List.forall_mem_singleton, start?_refeed]
    exact ⟨fun l member => cut.tail l (by simp [member]), cut.tail m (by simp)⟩

namespace Lasting

variable {ls : List Text}

theorem emptyLine (safe : p.TrimSafe) (rest : Lasting p table name near ls) :
    Lasting p table name near (['\n'] :: ls) := by
  rw [← List.singleton_append]
  refine rest.append_loose ?_ ?_ fun _ => ?_
  · exact List.forall_mem_singleton.mpr (start?_emptyLine safe)
  · exact List.forall_mem_singleton.mpr Text.startsClean_emptyLine
  · exact List.forall_mem_singleton.mpr (occursIn_emptyLine safe)

/-- Lines that are no declaration. -/
theorem loose (safe : p.TrimSafe) {qs : List Text} (lined : Text.Lined qs) (clean : ∀ l ∈ qs, Text.StartsClean l)
    (quiet : ∀ l ∈ qs, start? p l = none) (unmarked : near = true → Unmarked p qs)
    (rest : Lasting p table name near ls) :
    Lasting p table name near (Text.lines (Renderer.chunk qs.flatten) ++ ls) := by
  refine rest.append_loose ?_ ?_ fun reached => ?_
  · exact Renderer.forall_lines_chunk lined clean (start?_emptyLine safe) quiet
      fun l member _ => (start?_refeed p l).trans (quiet l member)
  · exact startsClean_chunk lined clean
  · exact Renderer.forall_lines_chunk lined clean (occursIn_emptyLine safe) (unmarked reached)
      fun l member _ => occursIn_refeed safe (unmarked reached l member)

/-- A declaration that stays. -/
theorem kept (safe : p.TrimSafe) {g : Segment} (cut : g.WellCut p) (lined : Text.Lined g.lines)
    (clean : ∀ l ∈ g.lines, Text.StartsClean l) (stays : table.retains g.start.name = true)
    (filled : Text.isBlank g.lines.flatten = false) (rest : Lasting p table name false ls) :
    Lasting p table name near (Text.lines (Renderer.chunk g.lines.flatten) ++ ls) := by
  obtain ⟨h, lines, cut', same, filled', -⟩ := cut.exists_chunk safe lined clean filled
  have clean' := startsClean_chunk lined clean
  rw [lines] at clean' ⊢
  obtain ⟨-, cleanLines⟩ := List.forall_mem_cons.mp clean'
  exact (boundary cut' cleanLines (same ▸ stays) filled' rest).emptyLine safe

/-- A declaration that does not close. -/
theorem broken (safe : p.TrimSafe) {g : Segment} (cut : g.WellCut p) (lined : Text.Lined g.lines)
    (clean : ∀ l ∈ g.lines, Text.StartsClean l) (stuck : blockLength? p g.lines = none)
    (rest : Lasting p table name (near || decide (g.start.name = name)) ls) :
    Lasting p table name near (Text.lines (Renderer.chunk g.lines.flatten) ++ ls) := by
  cases blank : Text.isBlank g.lines.flatten with
  | true =>
    rw [Renderer.chunk_of_blank blank]
    exact rest.of_or
  | false =>
    obtain ⟨h, lines, cut', same, -, still⟩ := cut.exists_chunk safe lined clean blank
    have clean' := startsClean_chunk lined clean
    rw [lines] at clean' ⊢
    obtain ⟨-, cleanLines⟩ := List.forall_mem_cons.mp clean'
    exact (failing cut' cleanLines (still stuck) (same ▸ rest)).emptyLine safe

end Lasting

end Scan

end Cleave
