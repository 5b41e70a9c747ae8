import Cleave.Proofs.Plan.Chunk

/-!
# Planning the root again

A root is composed of the declarations that stay, of lines that are no starts and of the aggregator, so a scan of it
finds these declarations again and nothing is left to extract (`plan_idempotent`).
-/

namespace Cleave

/-- Patterns under which line feeds around a declaration make no difference. -/
structure ScanPatterns.FeedSafe (p : ScanPatterns) : Prop where
  empty : Scan.start? p [] = none
  opens : p.openChar ≠ '\n'
  closes : p.closeChar ≠ '\n'
  marker : Text.isBlank p.closingMarker = false

namespace Scan

variable {p : ScanPatterns}

theorem start?_feed (p : ScanPatterns) (x : Text) : start? p (x ++ ['\n']) = start? p x := by
  simp only [start?, Text.trimEndOf_concat (p := Text.isTerminator) (c := '\n') rfl]

theorem start?_blank (safe : p.FeedSafe) : start? p ['\n'] = none :=
  (start?_feed p []).trans safe.empty

/-! ## Texts without a start -/

/-- No line of the text is a start. -/
def Quiet (p : ScanPatterns) (t : Text) : Prop :=
  ∀ l ∈ Text.lines t, start? p l = none

theorem quiet_cons (safe : p.FeedSafe) (t : Text) : Quiet p ('\n' :: t) ↔ Quiet p t := by
  rw [Quiet, Text.lines, if_pos rfl, List.forall_mem_cons]
  exact and_iff_right (start?_blank safe)

/-- A residue without a start brings none into the root. -/
theorem Quiet.chunk (safe : p.FeedSafe) {t : Text} (free : '\r' ∉ t) (quiet : Quiet p t) :
    Quiet p (Renderer.chunk t) := by
  have clean : ∀ l ∈ Text.lines t, Text.StartsClean l := by
    refine fun l member => Text.startsClean_of_free fun inside => free ?_
    rw [← Text.flatten_lines t]
    exact List.mem_flatten.mpr ⟨l, member, inside⟩
  have kept := Renderer.forall_lines_chunk (Text.lined_lines t) clean (start?_blank safe) quiet
    fun l member _ => (start?_refeed p l).trans (quiet l member)
  rwa [Text.flatten_lines] at kept

/-! ## Declarations in the root -/

theorem closes_feed (safe : p.FeedSafe) {init : List Text} {x : Text} (closed : closes p (init ++ [x]) = true) :
    closes p (init ++ [x ++ ['\n']]) = true := by
  have none : excess p ['\n'] = 0 := by
    simp [excess, weight, safe.opens.symm, safe.closes.symm]
  simp only [closes, Bool.and_eq_true, List.getLast?_concat, Option.any_some, occursIn_iff, List.flatten_append,
    List.flatten_singleton, List.contains_iff_mem, beq_iff_eq] at closed ⊢
  obtain ⟨⟨balanced, opened⟩, marked⟩ := closed
  refine ⟨⟨?_, ?_⟩, marked.trans (List.prefix_append x _).isInfix⟩
  · rw [← List.append_assoc, excess_append, balanced, none, Int.zero_add]
  · rw [← List.append_assoc]
    exact List.mem_append_left _ opened

/-- A declaration stays one when its last line gets a line feed. -/
theorem IsDeclaration.feed (safe : p.FeedSafe) {start : Start} {init : List Text} {x : Text}
    (declares : IsDeclaration p start (init ++ [x])) : IsDeclaration p start (init ++ [x ++ ['\n']]) := by
  refine ⟨⟨closes_feed safe declares.block.closed, fun k short => ?_⟩, ?_⟩
  · rw [List.length_append, List.length_singleton] at short
    have same := declares.block.first k (by simpa using short)
    rw [List.take_append_of_le_length (by omega)] at same ⊢
    exact same
  · obtain ⟨l, rest, lines, found, quiet⟩ := declares.starts
    cases init with
    | nil =>
      obtain ⟨rfl, rfl⟩ := List.cons.inj lines
      exact ⟨x ++ ['\n'], [], rfl, (start?_feed p x).trans found, by simp⟩
    | cons m init =>
      obtain ⟨rfl, rfl⟩ := List.cons.inj lines
      refine ⟨m, init ++ [x ++ ['\n']], rfl, found, ?_⟩
      simpa [or_imp, forall_and, start?_feed] using quiet

/-- The closing marker is on the last line, which is not blank for that reason. -/
theorem IsDeclaration.last_not_blank (safe : p.FeedSafe) {start : Start} {init : List Text} {l : Text}
    (declares : IsDeclaration p start (init ++ [l])) : Text.isBlank l = false := by
  have closed := declares.block.closed
  simp only [closes, Bool.and_eq_true, List.getLast?_concat, Option.any_some, occursIn_iff] at closed
  rw [Bool.eq_false_iff]
  intro blank
  have marker := Text.isBlank_of_subset closed.2.subset blank
  rw [safe.marker] at marker
  cases marker

/-- The last line of a declaration, without the line feed that it may have. -/
theorem IsDeclaration.exists_last (safe : p.FeedSafe) {start : Start} {ls : List Text}
    (declares : IsDeclaration p start ls) (lined : Text.Lined ls) :
    ∃ init x feed, ls = init ++ [x ++ feed] ∧ (feed = [] ∨ feed = ['\n']) ∧ '\n' ∉ x ∧ Text.isBlank x = false := by
  rcases List.eq_nil_or_concat ls with rfl | ⟨init, l, rfl⟩
  · simpa using declares.starts
  · rw [List.concat_eq_append] at declares lined ⊢
    have filled := declares.last_not_blank safe
    rcases Text.Lined.cons_iff.mp lined.right with ⟨-, -, free⟩ | ⟨x, free, rfl, -⟩
    · exact ⟨init, l, [], by simp, .inl rfl, free, filled⟩
    · refine ⟨init, x, ['\n'], rfl, .inr rfl, free, ?_⟩
      simpa [Text.isBlank, show Text.isBlankChar '\n' = true from rfl] using filled

theorem IsDeclaration.not_blank (safe : p.FeedSafe) {start : Start} {ls : List Text}
    (declares : IsDeclaration p start ls) : Text.isBlank ls.flatten = false := by
  rcases List.eq_nil_or_concat ls with rfl | ⟨init, l, rfl⟩
  · simpa using declares.starts
  · rw [List.concat_eq_append] at declares ⊢
    have last := declares.last_not_blank safe
    rw [Bool.eq_false_iff] at last ⊢
    exact fun blank => last (Text.isBlank_of_subset (fun c member => by simp [member]) blank)

/-- No line of a declaration is trimmed off as a whole. -/
theorem IsDeclaration.trimmed (safe : p.FeedSafe) {start : Start} {init : List Text} {m : Text}
    (declares : IsDeclaration p start (init ++ [m])) : Text.Trimmed (init ++ [m]) init m := by
  refine ⟨⟨[], [], rfl, List.forall_mem_nil _, List.forall_mem_nil _⟩, fun bare => ?_, fun l first bare => ?_⟩
  · have filled := declares.last_not_blank safe
    rw [bare.isBlank] at filled
    cases filled
  · obtain ⟨h, rest, lines, found, -⟩ := declares.starts
    rw [lines, List.head?_cons, Option.mem_some_iff] at first
    rw [first, start?_bare safe.empty bare] at found
    cases found

/-- In the root, an empty line comes before a declaration, and its last line ends with a line feed. -/
theorem IsDeclaration.lines_chunk (safe : p.FeedSafe) {start : Start} {ls : List Text}
    (declares : IsDeclaration p start ls) (lined : Text.Lined ls) (free : '\r' ∉ ls.flatten) :
    ∃ block, Text.lines (Renderer.chunk ls.flatten) = ['\n'] :: block ∧ IsDeclaration p start block := by
  have clean : ∀ l ∈ ls, Text.StartsClean l := fun l member =>
    Text.startsClean_of_free fun inside => free (List.mem_flatten.mpr ⟨l, member, inside⟩)
  have visible := declares.not_blank safe
  obtain ⟨init, x, feed, rfl, kind, single, -⟩ := declares.exists_last safe lined
  have other : ∀ c ∈ x, Text.isTerminator c = false := by
    intro c inside
    rw [Bool.eq_false_iff]
    intro terminator
    rcases Text.terminator_cases terminator with rfl | rfl
    · exact single inside
    · exact free (List.mem_flatten.mpr ⟨x ++ feed, by simp, List.mem_append_left _ inside⟩)
  have bare : Text.IsBare feed := by
    rcases kind with rfl | rfl
    · exact List.forall_mem_nil _
    · exact List.forall_mem_singleton.mpr rfl
  have refed : (x ++ feed).refeed = x ++ ['\n'] := by
    rw [Text.refeed, Text.trimEndOf_append_of_bare bare, Text.trimEndOf_eq_self other]
  refine ⟨init ++ [x ++ ['\n']], ?_, ?_⟩
  · rw [Renderer.lines_chunk (declares.trimmed safe) lined clean visible, refed]
  · -- Only the last line of the document can lack its line feed; it gets one here.
    rcases kind with rfl | rfl
    · rw [List.append_nil] at declares
      exact declares.feed safe
    · exact declares

/-! ## The root as a whole -/

/-- A part that can be put into the root: lines of a text without carriage returns that are a declaration, or no
starts. -/
structure Part.Sound (p : ScanPatterns) (q : Part) : Prop where
  lined : Text.Lined q.lines
  free : '\r' ∉ q.text
  declares : ∀ name, q.name = some name → IsDeclaration p ⟨name, false⟩ q.lines
  quiet : q.name = none → ∀ l ∈ q.lines, start? p l = none

theorem Part.Sound.composed (safe : p.FeedSafe) {q : Part} (sound : q.Sound p) {ls names : List Text}
    {last : Option Text} (rest : Composed p ls names last) :
    Composed p (Text.lines (Renderer.chunk q.text) ++ ls) (q.name.toList ++ names) last := by
  cases named : q.name with
  | none =>
    have quiet : Quiet p q.text := by
      rw [Quiet, Part.text, Text.lines_flatten sound.lined]
      exact sound.quiet named
    exact rest.append_loose (quiet.chunk safe sound.free)
  | some name =>
    obtain ⟨block, lines, declares⟩ := (sound.declares name named).lines_chunk safe sound.lined sound.free
    rw [Part.text, lines]
    exact .loose (start?_blank safe) (.declaration declares rest)

theorem composed_chunks (safe : p.FeedSafe) {qs : List Part} (sound : ∀ q ∈ qs, q.Sound p) {ls : List Text}
    {last : Option Text} (rest : Composed p ls [] last) :
    Composed p (qs.flatMap (fun q => Text.lines (Renderer.chunk q.text)) ++ ls) (qs.filterMap Part.name) last := by
  induction qs with
  | nil => exact rest
  | cons q qs ih =>
    have later := ih fun r member => sound r (by simp [member])
    have composed := (sound q (by simp)).composed safe later
    rw [List.flatMap_cons, List.append_assoc]
    cases named : q.name with
    | none => simpa [named] using composed
    | some name => simpa [named] using composed

/-- The parts of a document without failures and carriage returns are sound. -/
theorem sound_of_mem {path : Path} {text : Text} (clean : (outlineOf p (.ofText path text)).failures = [])
    (free : '\r' ∉ text) {q : Part} (member : q ∈ (outlineOf p (.ofText path text)).parts) : q.Sound p := by
  have inside : q ∈ (outlineOf p (.ofText path text)).all := List.mem_append_left _ member
  have cut := (segments_wellCut p (Document.ofText path text).lines).2
  obtain ⟨a, b, lines, -, -⟩ := exists_lines_of_mem inside
  have whole : text = (a ++ q.lines ++ b).flatten := by
    rw [← lines]
    exact (Text.flatten_lines text).symm
  refine ⟨lined_of_mem inside, fun found => free ?_, ?_, ?_⟩
  · rw [whole, List.flatten_append, List.flatten_append]
    exact List.mem_append_left _ (List.mem_append_right _ found)
  · exact fun name named => outline_declaration cut member named
  · exact outline_residue cut clean member

theorem composed_ending (safe : p.FeedSafe) (path : Path) (text : Text) :
    let r := outlineOf p (.ofText path text)
    Composed p (if r.aggregator = none then [] else ['\n'] :: r.closing) [] (r.aggregator.bind Part.name) := by
  intro r
  cases found : r.aggregator with
  | none => exact .nil
  | some q =>
    have cut := (segments_wellCut p (Document.ofText path text).lines).2
    obtain ⟨name, named, declares⟩ := outline_aggregator cut found
    have closing : r.closing = q.lines ++ r.trailing := by simp [Outline.closing, found]
    rw [if_neg (by simp), closing, Option.bind_some, named]
    exact .loose (start?_blank safe) (.aggregator declares r.trailing)

/-- The lines of the root that are left of an outline. -/
def Outline.left (table : RuleTable) (r : Outline) : List Text :=
  (r.parts.filter (Part.stays table)).flatMap (fun q => Text.lines (Renderer.chunk q.text)) ++
    if r.aggregator = none then [] else ['\n'] :: r.closing

end Scan

namespace Engine

open Scan

variable {e : Engine} {layout : Layout} {path : Path} {text : Text}

theorem lines_remainder (e : Engine) (path : Path) (text : Text) :
    Text.lines (e.remainder (.ofText path text)) = (outlineOf e.patterns (.ofText path text)).left e.table := by
  have chunks : ∀ q ∈ (outlineOf e.patterns (.ofText path text)).parts.filter (Part.stays e.table),
      Text.EndsLine (Renderer.chunk q.text) :=
    fun q _ => Renderer.endsLine_chunk q.text
  rw [remainder, Text.lines_append (Text.endsLine_flatMap chunks), Text.lines_flatMap chunks, Outline.left]
  refine congrArg (_ ++ ·) ?_
  split
  · rfl
  · rw [Text.lines, if_pos rfl, Text.lines_flatten (lined_document e.patterns path text).right.right]

theorem composed_remainder (safe : e.patterns.FeedSafe) (free : '\r' ∉ text)
    (clean : (outlineOf e.patterns (.ofText path text)).failures = []) :
    let r := outlineOf e.patterns (.ofText path text)
    Composed e.patterns (Text.lines (e.remainder (.ofText path text)))
      ((r.parts.filter (Part.stays e.table)).filterMap Part.name) (r.aggregator.bind Part.name) := by
  intro r
  rw [lines_remainder]
  refine composed_chunks safe (fun q member => ?_) (composed_ending safe path text)
  exact sound_of_mem clean free (List.mem_of_mem_filter member)

theorem endsLine_importLines (o : ScanOutcome) : Text.EndsLine (e.importLines layout o) := by
  refine Text.EndsLine.append ?_ (Text.endsLine_flatMap fun g _ => Text.endsLine_feed _)
  cases e.renderer.rootBanner with
  | none => exact Text.endsLine_nil
  | some banner => exact Text.endsLine_feed banner

theorem quiet_separator (safe : e.patterns.FeedSafe) (preamble : Text) :
    Quiet e.patterns (Renderer.separator preamble) := by
  have silent : Quiet e.patterns [] := fun l member => by simp [Text.lines] at member
  rw [Renderer.separator]
  split
  · exact silent
  · exact (quiet_cons safe []).mpr silent

theorem endsLine_separator (preamble : Text) : Text.EndsLine (Renderer.separator preamble) := by
  rw [Renderer.separator]
  split
  · exact Text.endsLine_nil
  · exact Text.endsLine_feed []

/-- The lines of the root: its front, which is followed by what is left of the document. -/
theorem lines_root (extracts : (e.plan (.ofText path text) layout).groups ≠ []) :
    let o := e.patterns.scan (.ofText path text)
    Text.lines (e.plan (.ofText path text) layout).root.content =
      opening e.patterns (.ofText path text) ++ (Text.lines (Renderer.separator o.preamble) ++
        (Text.lines (e.importLines layout o) ++ Text.lines (e.remainder (.ofText path text)))) := by
  intro o
  rw [root_content extracts, List.append_assoc, List.append_assoc,
    Text.lines_append (endsLine_preamble (declarations_ne_nil extracts)), Text.lines_append (endsLine_separator _),
    Text.lines_append (endsLine_importLines _), lines_preamble]

/-- The root is composed of the declarations that stay and of the aggregator. -/
theorem composed_root (safe : e.patterns.FeedSafe) (free : '\r' ∉ text)
    (extracts : (e.plan (.ofText path text) layout).groups ≠ [])
    (clean : (e.plan (.ofText path text) layout).failures = [])
    (quiet : Quiet e.patterns (e.importLines layout (e.patterns.scan (.ofText path text)))) :
    let r := outlineOf e.patterns (.ofText path text)
    Composed e.patterns (Text.lines (e.plan (.ofText path text) layout).root.content)
      ((r.parts.filter (Part.stays e.table)).filterMap Part.name) (r.aggregator.bind Part.name) := by
  intro r
  have failures : r.failures = [] := by
    have none : (e.patterns.scan (.ofText path text)).failures = [] := clean
    rwa [scan_eq_outcome] at none
  have before := (segments_wellCut e.patterns (Text.lines text)).1
  have separator := quiet_separator safe (e.patterns.scan (.ofText path text)).preamble
  rw [lines_root extracts]
  have rest := composed_remainder safe free failures
  exact ((rest.append_loose quiet).append_loose separator).append_loose before

/-- The names of the declarations that stay are those of the parts that stay. -/
theorem map_name_retained (table : RuleTable) (qs : List Part) :
    ((qs.filterMap Part.span?).filter fun s => table.retains s.name).map Span.name =
      (qs.filter (Part.stays table)).filterMap Part.name := by
  rw [List.filter_filterMap, List.map_filterMap, List.filterMap_filter]
  refine congrArg (List.filterMap · qs) (funext fun q => ?_)
  obtain ⟨name, first, ls⟩ := q
  cases name with
  | none => simp
  | some name =>
    cases stays : table.retains name with
    | true => simp [Part.stays, Option.filter, stays]
    | false => simp [Part.stays, Option.filter, stays]

theorem plan_retained (e : Engine) (d : Document) (layout : Layout) :
    (e.plan d layout).retained =
      ((outlineOf e.patterns d).parts.filter (Part.stays e.table)).filterMap Part.name := by
  rw [← map_name_retained]
  simp only [plan, group, Grouped.ofSpans_retained, scan_eq_outcome]
  rfl

theorem plan_aggregator (e : Engine) (d : Document) (layout : Layout) :
    (e.plan d layout).aggregator = (outlineOf e.patterns d).aggregator.bind Part.name := by
  simp only [plan, scan_eq_outcome, Outline.addTo, Option.map_bind, Function.comp_def, map_name_span?]

/-- Where every declaration stays, nothing is extracted and the document is left as it is. -/
theorem plan_of_retains {d : Document} (layout : Layout)
    (stay : ∀ s ∈ (e.patterns.scan d).declarations, e.table.retains s.name = true) :
    (e.plan d layout).groups = [] ∧ (e.plan d layout).root.content = d.text ∧
      (e.plan d layout).retained = (e.patterns.scan d).declarations.map Span.name := by
  have none : (e.group (e.patterns.scan d)).groups = [] := Grouped.ofSpans_groups_eq_nil stay
  refine ⟨by simp [plan, none], if_pos none, ?_⟩
  simp only [plan, group, Grouped.ofSpans_retained]
  rw [List.filter_eq_self.mpr stay]

end Engine

/-- Planning a root again changes nothing. Let a plan have a group and no failures, where the text holds no carriage
return, the delimiters are no line feeds, the closing marker is not blank, and neither an empty line nor a line that
is put into the root is a start. Then planning the new root extracts nothing and fails nowhere, leaves the root as it
is, and finds the same retained declarations and the same aggregator. -/
theorem plan_idempotent (e : Engine) (path : Path) (text : Text) (layout : Layout)
    (extracts : (e.plan (.ofText path text) layout).groups ≠ [])
    (clean : (e.plan (.ofText path text) layout).failures = []) (free : '\r' ∉ text)
    (opens : e.patterns.openChar ≠ '\n') (closes : e.patterns.closeChar ≠ '\n')
    (marker : Text.isBlank e.patterns.closingMarker = false) (empty : Scan.start? e.patterns [] = none)
    (quiet : ∀ l ∈ Text.lines (e.importLines layout (e.patterns.scan (.ofText path text))),
      Scan.start? e.patterns l = none) :
    let first := e.plan (.ofText path text) layout
    let second := e.plan (.ofText path first.root.content) layout
    second.isNoop = true ∧ second.failures = [] ∧ second.root.content = first.root.content ∧
      second.retained = first.retained ∧ second.aggregator = first.aggregator := by
  intro first second
  have composed := Engine.composed_root ⟨empty, opens, closes, marker⟩ free extracts clean quiet
  obtain ⟨failures, names, last⟩ := Scan.Composed.scan_eq (d := .ofText path first.root.content) composed
  rw [← e.plan_retained _ layout] at names
  rw [← e.plan_aggregator _ layout] at last
  have stay : ∀ s ∈ (e.patterns.scan (.ofText path first.root.content)).declarations,
      e.table.retains s.name = true := by
    intro s member
    have kept : s.name ∈ first.retained := names ▸ List.mem_map_of_mem member
    rw [show first.retained = _ from e.plan_retained _ layout] at kept
    obtain ⟨q, inside, named⟩ := List.mem_filterMap.mp kept
    have stays := (List.mem_filter.mp inside).2
    rwa [Scan.Part.stays, named, Option.all_some] at stays
  obtain ⟨groups, content, retained⟩ := Engine.plan_of_retains layout stay
  refine ⟨?_, failures, ?_, retained.trans names, last⟩
  · rw [Plan.isNoop, groups, List.isEmpty_nil]
  · exact content.trans (Text.flatten_lines first.root.content)

theorem plan_idempotent_sample :
    let first := Engine.sample.plan (.ofText ⟨[]⟩ .sample) .sample
    let second := Engine.sample.plan (.ofText ⟨[]⟩ first.root.content) .sample
    first.extracted = 1 ∧ second.isNoop = true ∧ second.failures = [] ∧
      second.root.content = first.root.content ∧ second.retained = ["main".toList] ∧
      second.aggregator = some "e".toList := by
  intro first second
  have found : first.groups ≠ [] ∧ first.failures = [] ∧ first.extracted = 1 ∧ first.retained = ["main".toList] ∧
      first.aggregator = some "e".toList := by
    decide +kernel
  obtain ⟨extracts, clean, count, names, last⟩ := found
  obtain ⟨noop, failures, content, retained, aggregator⟩ :=
    plan_idempotent Engine.sample ⟨[]⟩ .sample .sample extracts clean (by decide +kernel) (by decide) (by decide)
      (by decide +kernel) (by decide +kernel) (by decide +kernel)
  exact ⟨count, noop, failures, content, retained.trans names, aggregator.trans last⟩

end Cleave
