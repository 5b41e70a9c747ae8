import Mathlib.Data.List.Basic
import Cleave.Proofs.Document.Slice
import Cleave.Proofs.Plan.Grouping
import Cleave.Proofs.Text.Substance

/-!
# The root

If something is extracted, the root is put together again from the pieces of the document that stay, each in its
own place. Nothing else is lost: the lines of the root after its imports say what the lines of the document say
that are neither in the preamble nor extracted (`root_keeps_unextracted`).
-/

namespace Cleave

namespace Renderer

theorem chunk_of_blank {t : Text} (blank : Text.isBlank t = true) : chunk t = [] :=
  if_pos (Text.isBlank_of_subset (Text.trimOf_subset _ t) blank)

theorem endsLine_chunk (t : Text) : Text.EndsLine (chunk t) := by
  simp only [chunk]
  split
  · exact Text.endsLine_nil
  · exact Text.endsLine_feed _

/-- A piece of text says the same in the root. -/
theorem substance_chunk (t : Text) : Text.substance (Text.lines (chunk t)) = Text.substance (Text.lines t) := by
  rw [← Text.substance_lines_trimOf t, chunk]
  split
  · rename_i blank
    rw [← Text.flatten_lines (Text.trimOf _ t)] at blank
    rw [Text.substance_of_blank blank]
    rfl
  · rw [Text.substance_lines_concat rfl, Text.substance_lines_cons rfl]

/-- A root with imports, where the preamble stops at the end of a line. -/
theorem root_eq {r : Renderer} {parts : RootParts} (ends : Text.EndsLine parts.preamble)
    (imports : parts.imports ≠ []) :
    r.root parts =
      parts.preamble ++
        (separator parts.preamble ++ ((r.rootBanner.map (· ++ ['\n'])).getD [] ++
          parts.imports.flatMap fun i => r.rootLine i ++ ['\n'])) ++
        (parts.retained.flatMap chunk ++ ((parts.aggregator.map ('\n' :: ·)).getD [] ++ parts.trailing)) := by
  have kept : (if parts.preamble = [] then [] else Text.terminated parts.preamble) = parts.preamble := by
    split
    · rename_i none
      exact none.symm
    · rename_i filled
      exact Text.terminated_of_endsLine ends filled
  simp only [root, kept, rootBlock, if_neg imports, List.append_assoc]

end Renderer

namespace Scan

/-- Whether a part is left in the root: residue always, a declaration if its name says so. -/
def Part.stays (table : RuleTable) (q : Part) : Bool :=
  q.name.all table.retains

/-- Whether a part is put into the root as a piece of its own. -/
def Part.shown (table : RuleTable) (q : Part) : Bool :=
  q.stays table && (q.name.isSome || !Text.isBlank q.text)

theorem filter_residue? (table : RuleTable) (qs : List Part) :
    (qs.filterMap Part.residue?).filter (fun r => !r.isBlank) =
      (qs.filter (Part.shown table)).filterMap Part.residue? := by
  rw [List.filter_filterMap, List.filterMap_filter]
  refine congrArg (List.filterMap · qs) (funext fun q => ?_)
  obtain ⟨name, first, ls⟩ := q
  cases name with
  | none => simp [Part.shown, Part.stays, Option.filter, Residue.isBlank, Part.text]
  | some name => simp

theorem filter_span? (table : RuleTable) (qs : List Part) :
    (qs.filterMap Part.span?).filter (fun s => table.retains s.name) =
      (qs.filter (Part.shown table)).filterMap Part.span? := by
  rw [List.filter_filterMap, List.filterMap_filter]
  refine congrArg (List.filterMap · qs) (funext fun q => ?_)
  obtain ⟨name, first, ls⟩ := q
  cases name with
  | none => simp
  | some name => simp [Part.shown, Part.stays, Option.filter]

theorem parts_pairwise (p : ScanPatterns) (d : Document) :
    (outlineOf p d).parts.Pairwise fun a b => a.first < b.first :=
  (List.pairwise_append.mp (outline_tiled p _ _).pairwise_first).1

/-- The texts of residues and declarations, sorted together, are those of the parts. -/
theorem mergeSort_texts {qs : List Part} (ordered : qs.Pairwise fun a b => a.first < b.first) :
    (((qs.filterMap Part.residue?).map fun r => (r.first, r.text)) ++
      (qs.filterMap Part.span?).map fun s => (s.first, s.text)).mergeSort (fun x y => decide (x.1 ≤ y.1)) =
      qs.map fun q => (q.first, q.text) := by
  refine mergeSort_parts ordered (fun q _ => rfl) ?_ ?_
  · intro q _ r found
    simp only [Part.residue?, Option.ite_none_right_eq_some, Option.some.injEq] at found
    rw [← found.2]
  · intro q _ s found
    obtain ⟨name, -, rfl⟩ := Option.map_eq_some_iff.mp found
    rfl

/-- The pieces that stay, in the order of the document. -/
theorem retainedChunks_eq (p : ScanPatterns) (table : RuleTable) (d : Document) :
    Engine.retainedChunks (p.scan d) (Grouped.ofSpans table (p.scan d).declarations).retained =
      ((outlineOf p d).parts.filter (Part.shown table)).map Part.text := by
  rw [Grouped.ofSpans_retained, scan_eq_outcome, Engine.retainedChunks]
  simp only [Outline.addTo, List.nil_append, filter_residue? table, filter_span? table]
  rw [mergeSort_texts ((parts_pairwise p d).filter _), List.map_map]
  rfl

/-- A blank residue leaves nothing in the root. -/
theorem flatMap_chunk_shown (table : RuleTable) (qs : List Part) :
    ((qs.filter (Part.shown table)).map Part.text).flatMap Renderer.chunk =
      (qs.filter (Part.stays table)).flatMap fun q => Renderer.chunk q.text := by
  induction qs with
  | nil => rfl
  | cons q qs ih =>
    cases shown : q.shown table with
    | true =>
      have stays : q.stays table = true := (Bool.and_eq_true_iff.mp shown).1
      simp [shown, stays, ih]
    | false =>
      rw [List.filter_cons_of_neg (by simp [shown]), ih]
      cases stays : q.stays table with
      | false => simp [stays]
      | true =>
        have blank : Text.isBlank q.text = true := by
          simp only [Part.shown, stays, Bool.true_and, Bool.or_eq_false_iff, Bool.not_eq_false'] at shown
          exact shown.2
        simp [stays, Renderer.chunk_of_blank blank]

/-- The lines from the aggregator on. -/
def Outline.closing (r : Outline) : List Text :=
  r.aggregator.toList.flatMap Part.lines ++ r.trailing

theorem outline_trailing {p : ScanPatterns} {s : Nat} {gs : List Segment}
    (missing : (outline p s gs).aggregator = none) : (outline p s gs).trailing = [] := by
  fun_induction outline p s gs with
  | case1 => rfl
  | case2 s g gs k block aggregates => simp at missing
  | case3 s g gs k block regular ih => exact ih missing
  | case4 s g gs block ih => exact ih missing

theorem opening_append_closing (p : ScanPatterns) (d : Document) :
    opening p d ++ ((outlineOf p d).parts.flatMap Part.lines ++ (outlineOf p d).closing) = d.lines := by
  rw [← opening_append p d, Outline.all, List.flatMap_append, Outline.closing, List.append_assoc]

theorem lined_document (p : ScanPatterns) (path : Path) (text : Text) :
    let r := outlineOf p (.ofText path text)
    Text.Lined (opening p (.ofText path text) ++ (r.parts.flatMap Part.lines ++ r.closing)) := by
  intro r
  have lined := Text.lined_lines text
  rw [show Text.lines text = (Document.ofText path text).lines from rfl,
    ← opening_append_closing p (.ofText path text)] at lined
  exact lined

/-- The text that the root ends with. -/
theorem ending_eq (p : ScanPatterns) (d : Document) :
    (((p.scan d).aggregator.map Span.text).map ('\n' :: ·)).getD [] ++ (p.scan d).trailing =
      if (outlineOf p d).aggregator = none then [] else '\n' :: (outlineOf p d).closing.flatten := by
  have texts := congrArg (Option.map Piece.text) (aggregator_eq p d)
  rw [Option.map_map, Option.map_map] at texts
  have same : (p.scan d).aggregator.map Span.text = (outlineOf p d).aggregator.map Part.text := texts
  rw [same, show (p.scan d).trailing = (outlineOf p d).trailing.flatten by rw [scan_eq_outcome]; rfl]
  cases found : (outlineOf p d).aggregator with
  | none => simp [show (outlineOf p d).trailing = [] from outline_trailing found]
  | some q => simp [Outline.closing, found, Part.text]

/-- A preamble that a declaration follows stops at the end of a line. -/
theorem endsLine_preamble {p : ScanPatterns} {path : Path} {text : Text}
    (declares : (p.scan (.ofText path text)).declarations ≠ []) :
    Text.EndsLine (p.scan (.ofText path text)).preamble := by
  rw [scan_eq_outcome] at declares ⊢
  obtain ⟨s, member⟩ := List.exists_mem_of_ne_nil _ declares
  obtain ⟨q, inside, -⟩ := List.mem_filterMap.mp member
  obtain ⟨-, -, -, -, filled⟩ := exists_lines_of_mem (List.mem_append_left _ inside)
  refine (lined_document p path text).endsLine_left fun none => ?_
  have empty := List.flatMap_eq_nil_iff.mp (List.append_eq_nil_iff.mp none).1
  exact filled (empty q inside)

end Scan

/-! ## Lines outside of spans -/

/-- Whether line `i` belongs to a span. -/
def Span.covers (s : Span) (i : Nat) : Bool :=
  decide (s.first ≤ i) && decide (i ≤ s.last)

/-- The lines at wanted positions; the first line is at position `s`. -/
def select (wanted : Nat → Bool) (s : Nat) (ls : List Text) : List Text :=
  ((ls.zipIdx s).filter fun x => wanted x.2).map Prod.fst

/-- The lines from line `start` on that belong to none of the given spans, in order. -/
def Document.linesOutside (d : Document) (start : Nat) (spans : List Span) : List Text :=
  select (fun i => decide (start ≤ i) && !spans.any (·.covers i)) 0 d.lines

section Select

variable {wanted : Nat → Bool} {s : Nat}

theorem select_append (ls ms : List Text) :
    select wanted s (ls ++ ms) = select wanted s ls ++ select wanted (s + ls.length) ms := by
  simp [select, List.zipIdx_append]

theorem select_all {ls : List Text} (all : ∀ i, s ≤ i → i < s + ls.length → wanted i = true) :
    select wanted s ls = ls := by
  induction ls generalizing s with
  | nil => rfl
  | cons l ls ih =>
    have first := all s (by simp) (by simp)
    have rest : select wanted (s + 1) ls = ls := ih fun i above below => all i (by omega) (by simp; omega)
    simp only [select] at rest
    simp [select, first, rest]

theorem select_none {ls : List Text} (none : ∀ i, s ≤ i → i < s + ls.length → wanted i = false) :
    select wanted s ls = [] := by
  induction ls generalizing s with
  | nil => rfl
  | cons l ls ih =>
    have first := none s (by simp) (by simp)
    have rest : select wanted (s + 1) ls = [] := ih fun i above below => none i (by omega) (by simp; omega)
    simp only [select] at rest
    simp [select, first, rest]

/-- Where all lines of a part are wanted alike, whole parts are selected. -/
theorem select_parts {keep : Scan.Part → Bool} {qs : List Scan.Part} (tiled : Scan.Tiled s qs)
    (alike : ∀ q ∈ qs, ∀ i, q.first ≤ i → i < q.first + q.lines.length → wanted i = keep q) :
    select wanted s (qs.flatMap Scan.Part.lines) = (qs.filter keep).flatMap Scan.Part.lines := by
  induction qs generalizing s with
  | nil => rfl
  | cons q qs ih =>
    obtain ⟨rfl, -, later⟩ := tiled
    have rest := ih later fun r member => alike r (by simp [member])
    have own := alike q (by simp)
    rw [List.flatMap_cons, select_append, rest]
    cases kept : keep q with
    | true => rw [select_all (by rwa [kept] at own), List.filter_cons_of_pos kept, List.flatMap_cons]
    | false => rw [select_none (by rwa [kept] at own), List.filter_cons_of_neg (by simp [kept]), List.nil_append]

end Select

namespace Engine

open Scan

variable (e : Engine) (d : Document) (layout : Layout)

/-- The banner, and the lines of the root that bring in the groups. -/
def importLines (o : ScanOutcome) : Text :=
  (e.renderer.rootBanner.map (· ++ ['\n'])).getD [] ++
    (e.group o).groups.flatMap fun g => e.renderer.rootLine (e.rootImport layout g) ++ ['\n']

/-- The text of the root after its imports. -/
def remainder : Text :=
  ((outlineOf e.patterns d).parts.filter (Part.stays e.table)).flatMap (fun q => Renderer.chunk q.text) ++
    if (outlineOf e.patterns d).aggregator = none then [] else '\n' :: (outlineOf e.patterns d).closing.flatten

variable {e d layout}

theorem groups_ne_nil_iff : (e.plan d layout).groups ≠ [] ↔ (e.group (e.patterns.scan d)).groups ≠ [] := by
  simp [plan]

theorem declarations_ne_nil (extracts : (e.plan d layout).groups ≠ []) :
    (e.patterns.scan d).declarations ≠ [] := by
  intro none
  refine groups_ne_nil_iff.mp extracts ?_
  rw [group, none]
  rfl

/-- The root, cut at the ends of its preamble and of its imports. -/
theorem root_content {path : Path} {text : Text} (extracts : (e.plan (.ofText path text) layout).groups ≠ []) :
    let o := e.patterns.scan (.ofText path text)
    (e.plan (.ofText path text) layout).root.content =
      o.preamble ++ (Renderer.separator o.preamble ++ e.importLines layout o) ++
        e.remainder (.ofText path text) := by
  intro o
  have groups := groups_ne_nil_iff.mp extracts
  have ends := endsLine_preamble (declarations_ne_nil extracts)
  have imports : (e.group o).groups.map (e.rootImport layout) ≠ [] := by simpa using groups
  have content : (e.plan (.ofText path text) layout).root.content = e.renderer.root _ := if_neg groups
  rw [content, Renderer.root_eq ends imports, ending_eq, group, retainedChunks_eq, flatMap_chunk_shown,
    List.flatMap_map]
  rfl

/-- The declarations that move to groups. -/
def extracted (e : Engine) (o : ScanOutcome) : List Span :=
  (e.group o).groups.flatMap DomainGroup.spans

/-- The lines of extracted declarations are those of the parts that do not stay. -/
theorem any_covers_iff {i : Nat} :
    (e.extracted (e.patterns.scan d)).any (·.covers i) = true ↔
      ∃ q ∈ (outlineOf e.patterns d).parts,
        q.stays e.table = false ∧ q.first ≤ i ∧ i < q.first + q.lines.length := by
  rw [List.any_eq_true]
  constructor
  · rintro ⟨s, member, covers⟩
    obtain ⟨declared, moves⟩ := Grouped.mem_ofSpans_groups.mp member
    rw [scan_eq_outcome] at declared
    obtain ⟨q, inside, found⟩ := List.mem_filterMap.mp declared
    obtain ⟨-, -, -, -, filled⟩ := exists_lines_of_mem (List.mem_append_left _ inside)
    obtain ⟨name, named, rfl⟩ := Option.map_eq_some_iff.mp found
    have positive := List.length_pos_iff.mpr filled
    simp only [Span.covers, Bool.and_eq_true, decide_eq_true_eq] at covers
    exact ⟨q, inside, by simpa [Part.stays, named] using moves, covers.1, by omega⟩
  · rintro ⟨q, inside, moves, above, below⟩
    cases named : q.name with
    | none => simp [Part.stays, named] at moves
    | some name =>
      have declared :
          ⟨name, q.first, q.first + (q.lines.length - 1), q.text⟩ ∈ (e.patterns.scan d).declarations := by
        rw [scan_eq_outcome]
        exact List.mem_filterMap.mpr ⟨q, inside, Part.span?_of_name named⟩
      refine ⟨_, Grouped.mem_ofSpans_groups.mpr ⟨declared, by simpa [Part.stays, named] using moves⟩, ?_⟩
      simp only [Span.covers, Bool.and_eq_true, decide_eq_true_eq]
      omega

/-- The lines of the document that the root has to keep. -/
theorem linesOutside_eq (e : Engine) (d : Document) :
    d.linesOutside (opening e.patterns d).length (e.extracted (e.patterns.scan d)) =
      ((outlineOf e.patterns d).parts.filter (Part.stays e.table)).flatMap Part.lines ++
        (outlineOf e.patterns d).closing := by
  have tiled : Tiled (opening e.patterns d).length (outlineOf e.patterns d).parts := (outline_tiled _ _ _).left
  rw [Document.linesOutside, ← opening_append_closing e.patterns d, select_append, select_append, Nat.zero_add,
    select_none, select_parts tiled, select_all, List.nil_append]
  · -- Lines after the last part belong to no declaration.
    intro i above _
    have outside : (e.extracted (e.patterns.scan d)).any (·.covers i) = false := by
      rw [Bool.eq_false_iff, ne_eq, any_covers_iff]
      rintro ⟨q, member, -, -, below⟩
      obtain ⟨a, b, lines, place, -⟩ := tiled.exists_lines member
      rw [lines, List.length_append, List.length_append] at above
      omega
    rw [outside, Bool.not_false, Bool.and_true, decide_eq_true_eq]
    omega
  · intro q member i above below
    obtain ⟨a, b, -, place, -⟩ := tiled.exists_lines member
    have inside : decide ((opening e.patterns d).length ≤ i) = true := decide_eq_true (by omega)
    rw [inside, Bool.true_and, Bool.not_eq_eq_eq_not, Bool.eq_iff_iff, any_covers_iff, Bool.not_eq_true']
    constructor
    · rintro ⟨r, other, moves, inRight⟩
      rwa [tiled.eq_of_line member other ⟨above, below⟩ inRight]
    · exact fun moves => ⟨q, member, moves, above, below⟩
  · intro i _ below
    rw [decide_eq_false (by omega), Bool.false_and]

/-- The remainder of the root says what the lines say that the root has to keep. -/
theorem substance_remainder (e : Engine) (path : Path) (text : Text) :
    let r := outlineOf e.patterns (.ofText path text)
    Text.substance (Text.lines (e.remainder (.ofText path text))) =
      Text.substance ((r.parts.filter (Part.stays e.table)).flatMap Part.lines ++ r.closing) := by
  intro r
  have chunks : ∀ q ∈ r.parts.filter (Part.stays e.table), Text.EndsLine (Renderer.chunk q.text) :=
    fun q _ => Renderer.endsLine_chunk q.text
  rw [remainder, Text.lines_append (Text.endsLine_flatMap chunks), Text.lines_flatMap chunks, Text.substance_append,
    Text.substance_append, Text.substance_flatMap, Text.substance_flatMap]
  congr 1
  · refine List.flatMap_congr fun q member => ?_
    have lined := lined_of_mem (List.mem_append_left _ (List.mem_of_mem_filter member))
    rw [Renderer.substance_chunk, Part.text, Text.lines_flatten lined]
  · split
    · rename_i missing
      have none : r.closing = [] := by
        simp [Outline.closing, r, missing, show r.trailing = [] from outline_trailing missing]
      rw [none]
      rfl
    · have lined := (lined_document e.patterns path text).right.right
      rw [Text.substance_lines_cons rfl, Text.lines_flatten lined]

end Engine

/-- The root keeps everything that is not extracted. After the preamble come a separating line feed, if one is
needed, the banner and one line for each group. The rest says what the lines of the document after the preamble say
that belong to no extracted declaration, and it ends with the aggregator and the text after it as they are. -/
theorem root_keeps_unextracted (e : Engine) (path : Path) (text : Text) (layout : Layout)
    (extracts : (e.plan (.ofText path text) layout).groups ≠ []) :
    let d := Document.ofText path text
    let o := e.patterns.scan d
    ∃ separator rest : Text, (separator = [] ∨ separator = ['\n']) ∧
      (e.plan d layout).root.content =
        o.preamble ++
          (separator ++ (e.renderer.rootBanner.map (· ++ ['\n'])).getD [] ++
            (e.group o).groups.flatMap fun g => e.renderer.rootLine (e.rootImport layout g) ++ ['\n']) ++ rest ∧
      Text.substance (Text.lines rest) =
        Text.substance (d.linesOutside (Text.lines o.preamble).length (e.extracted o)) ∧
      ∀ a, o.aggregator = some a → (a.text ++ o.trailing) <:+ rest := by
  intro d o
  refine ⟨Renderer.separator o.preamble, e.remainder d, ?_, ?_, ?_, ?_⟩
  · rw [Renderer.separator]
    split
    · exact .inl rfl
    · exact .inr rfl
  · rw [Engine.root_content extracts, Engine.importLines]
    simp only [List.append_assoc]
    rfl
  · rw [Scan.lines_preamble, Engine.linesOutside_eq, Engine.substance_remainder]
  · intro a found
    have ending := Scan.ending_eq e.patterns d
    rw [Engine.remainder, ← ending, show (e.patterns.scan d).aggregator = some a from found]
    exact ⟨_ ++ ['\n'], by simp; rfl⟩

/-- An engine that extracts every declaration except `main`. -/
def Engine.sample : Engine where
  patterns := .sample
  table := { rules := [], retained := ["main".toList] }
  catalog := { base := [], optional := [], entities := {} }
  renderer := { rootBanner := some "// groups".toList }

/-- A text with an extracted and a retained declaration, a comment and an aggregator. -/
def Text.sample : Text :=
  "use x\nfn a \x7b\n\x7d\n\nfn main \x7b\x7d\n// note\n\nall e \x7b\x7d\ntail".toList

/-- Generated files live in a directory below the root. -/
def Layout.sample : Layout :=
  { rootDir := ⟨"src".toList⟩, outDir := ⟨"src/parts".toList⟩ }

theorem root_keeps_unextracted_sample :
    ∃ separator rest : Text, (separator = [] ∨ separator = ['\n']) ∧
      (Engine.sample.plan (.ofText ⟨[]⟩ .sample) .sample).root.content =
        "use x\n".toList ++
          (separator ++ "// groups\n".toList ++ "import \x7b a \x7d from \"./parts/misc\";\n".toList) ++ rest ∧
      Text.substance (Text.lines rest) =
        ["fn main \x7b\x7d".toList, "// note".toList, "all e \x7b\x7d".toList, "tail".toList] ∧
      "all e \x7b\x7d\ntail".toList <:+ rest := by
  have scanned : Engine.sample.patterns.scan (.ofText ⟨[]⟩ .sample) =
      { preamble := "use x\n".toList
        declarations :=
          [⟨"a".toList, 1, 2, "fn a \x7b\n\x7d\n".toList⟩, ⟨"main".toList, 4, 4, "fn main \x7b\x7d\n".toList⟩]
        residue := [⟨3, "\n".toList⟩, ⟨5, "// note\n\n".toList⟩]
        aggregator := some ⟨"e".toList, 7, 7, "all e \x7b\x7d\n".toList⟩
        trailing := "tail".toList } := by
    decide +kernel
  have extracts : (Engine.sample.plan (.ofText ⟨[]⟩ .sample) .sample).groups ≠ [] := by
    rw [Engine.groups_ne_nil_iff, scanned]
    decide +kernel
  obtain ⟨separator, rest, optional, content, meaning, ending⟩ :=
    root_keeps_unextracted Engine.sample ⟨[]⟩ .sample .sample extracts
  rw [scanned] at content meaning ending
  exact ⟨separator, rest, optional, content, meaning.trans (by decide +kernel), ending _ rfl⟩

end Cleave
