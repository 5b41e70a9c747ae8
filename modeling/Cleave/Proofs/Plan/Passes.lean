import Cleave.Proofs.Plan.Stray

/-!
# Passes over the root

A declaration that does not close stays in the root, and the next pass scans it there again, with other text behind
it. If that text can close it, it is extracted after all (`failed_declaration_returns`). If no stray text with the
closing marker comes after it up to the next declaration that stays, it is never extracted, however many passes
follow (`failed_declaration_stays`).
-/

namespace Cleave

namespace Scan

variable {p : ScanPatterns} {table : RuleTable} {name : Text} {near : Bool}

/-- The lines of a declaration are a segment of their own. -/
theorem IsDeclaration.exists_wellCut {start : Start} {ls : List Text} (declares : IsDeclaration p start ls) :
    ∃ g : Segment, g.lines = ls ∧ g.start = start ∧ g.WellCut p := by
  obtain ⟨l, rest, rfl, found, quiet⟩ := declares.starts
  exact ⟨⟨start, l, rest⟩, rfl, rfl, found, quiet⟩

namespace Outline

variable (table : RuleTable) (r : Outline)

theorem left_failing (s : Nat) (ls : List Text) (failure : ScanFailure) :
    (r.failing ⟨none, s, ls⟩ failure).left table = Text.lines (Renderer.chunk ls.flatten) ++ r.left table := by
  rw [left, failing, List.filter_cons_of_pos rfl, List.flatMap_cons, List.append_assoc]
  rfl

theorem left_loose (s : Nat) (ls : List Text) :
    ((loose s ls).filter (Part.stays table)).flatMap (fun q => Text.lines (Renderer.chunk q.text)) =
      Text.lines (Renderer.chunk ls.flatten) := by
  rw [loose]
  split
  · rename_i none
    rw [none]
    rfl
  · rw [List.filter_cons_of_pos rfl]
    simp [Part.text]

theorem left_declaring (name : Text) (s t : Nat) (ls more : List Text) :
    (r.declaring ⟨some name, s, ls⟩ (loose t more)).left table =
      (if table.retains name then Text.lines (Renderer.chunk ls.flatten) else []) ++
        (Text.lines (Renderer.chunk more.flatten) ++ r.left table) := by
  have stays : Part.stays table ⟨some name, s, ls⟩ = table.retains name := rfl
  rw [left, declaring, List.filter_append, List.filter_cons, stays, List.flatMap_append]
  split
  · rw [List.flatMap_cons, left_loose]
    simp [left, closing, Part.text]
  · rw [left_loose]
    simp [left, closing]

end Outline

/-- Lines after the block of a declaration are no starts. -/
theorem Segment.WellCut.quiet_drop {g : Segment} {k : Nat} (cut : g.WellCut p) (positive : 0 < k) :
    ∀ l ∈ g.lines.drop k, start? p l = none := by
  obtain ⟨m, rfl⟩ := Nat.exists_eq_succ_of_ne_zero (Nat.ne_of_gt positive)
  exact fun l member => cut.tail l (List.mem_of_mem_drop member)

/-- What is left of segments in which a name is held back holds it back. -/
theorem lasting_left (safe : p.TrimSafe) {gs : List Segment} (s : Nat) (cut : ∀ g ∈ gs, g.WellCut p)
    (lined : Text.Lined (gs.flatMap Segment.lines)) (clean : ∀ g ∈ gs, ∀ l ∈ g.lines, Text.StartsClean l)
    (held : Held p table name near gs) : Lasting p table name near ((outline p s gs).left table) := by
  fun_induction outline p s gs generalizing near with
  | case1 => exact .nil
  | case2 s g gs k block aggregates =>
    have declares := (cut g (by simp)).isDeclaration block
    rw [show g.start = ⟨g.start.name, true⟩ by rw [← aggregates]] at declares
    have all : ∀ l ∈ g.lines.take k ++ (g.lines.drop k ++ gs.flatMap Segment.lines), Text.StartsClean l := by
      rw [← List.append_assoc, List.take_append_drop, ← List.flatMap_cons]
      exact List.forall_mem_flatMap.mpr clean
    simpa [Outline.left, Outline.closing] using (Lasting.aggregator declares all).emptyLine safe
  | case3 s g gs k block aggregates ih =>
    have regular : g.start.aggregates = false := by simpa using aggregates
    obtain ⟨own, others⟩ := List.forall_mem_cons.mp clean
    obtain ⟨cutHere, cutLater⟩ := List.forall_mem_cons.mp cut
    rw [List.flatMap_cons] at lined
    have here := lined.left
    rw [← List.take_append_drop k g.lines] at here
    have behind {near : Bool} (unmarked : near = true → Unmarked p (g.lines.drop k))
        (held : Held p table name near gs) :=
      (ih cutLater lined.right others held).loose safe here.right
        (fun l member => own l (List.mem_of_mem_drop member)) (cutHere.quiet_drop (blockLength?_pos block)) unmarked
    rw [Outline.left_declaring]
    cases stays : table.retains g.start.name with
    | true =>
      -- the declaration is a boundary in the root again, so what follows is out of reach
      obtain ⟨h, lines, start, cut'⟩ := (cutHere.isDeclaration block).exists_wellCut
      have filled := (cutHere.isDeclaration block).not_blank safe.feedSafe
      rw [if_pos rfl, ← lines]
      rw [← lines] at filled here
      refine .kept safe cut' here.left (fun l member => own l (List.mem_of_mem_take (lines ▸ member))) (start ▸ stays)
        filled (behind (by simp) (held.of_closing block regular))
    | false =>
      -- the lines after the declaration come to stand behind what is before it
      obtain ⟨-, unmarked, rest⟩ := held.of_moves block regular stays
      rw [if_neg Bool.false_ne_true, List.nil_append]
      exact behind unmarked rest
  | case4 s g gs stuck ih =>
    obtain ⟨own, others⟩ := List.forall_mem_cons.mp clean
    obtain ⟨cutHere, cutLater⟩ := List.forall_mem_cons.mp cut
    rw [List.flatMap_cons] at lined
    rw [Outline.left_failing]
    rcases held.of_stuck stuck with ⟨stays, filled, rest⟩ | rest
    · exact .kept safe cutHere lined.left own stays filled (ih cutLater lined.right others rest)
    · exact .broken safe cutHere lined.left own stuck (ih cutLater lined.right others rest)

/-- A text whose lines hold a name back. -/
structure HoldsBack (p : ScanPatterns) (table : RuleTable) (name text : Text) : Prop where
  held : Held p table name false (segments p (Text.lines text)).2
  clean : ∀ g ∈ (segments p (Text.lines text)).2, ∀ l ∈ g.lines, Text.StartsClean l

/-- What stands before the first start makes no difference. -/
theorem Lasting.holdsBack {text : Text} {before ls : List Text} (cut : Text.lines text = before ++ ls)
    (quiet : ∀ l ∈ before, start? p l = none) (lasting : Lasting p table name false ls) :
    HoldsBack p table name text := by
  have split := segments_append_loose quiet ls
  rw [← cut] at split
  refine ⟨?_, fun g inside l member => lasting.clean l ?_⟩
  · rw [split]
    exact lasting.held
  · rw [split] at inside
    exact mem_of_mem_segments inside member

end Scan

namespace Engine

open Scan

variable {e : Engine} {path : Path} {layout : Layout} {text name : Text}

/-- The lines that a run puts into the root. -/
def insertedLines (e : Engine) (layout : Layout) (d : Document) : List Text :=
  if (e.plan d layout).isNoop then [] else Text.lines (e.importLines layout (e.patterns.scan d))

/-- The root after some passes, where each plans the root of the one before. -/
def rootAfter (e : Engine) (path : Path) (layout : Layout) (text : Text) : Nat → Text
  | 0 => text
  | n + 1 => (e.plan (.ofText path (e.rootAfter path layout text n)) layout).root.content

theorem rootAfter_of_fixed {m : Nat}
    (fixed : (e.plan (.ofText path (e.rootAfter path layout text m)) layout).root.content =
      e.rootAfter path layout text m) (n : Nat) :
    e.rootAfter path layout text (m + n) = e.rootAfter path layout text m := by
  induction n with
  | zero => rfl
  | succ n ih => rw [← Nat.add_assoc, rootAfter, ih, fixed]

theorem root_content_of_idle (idle : (e.plan (.ofText path text) layout).groups = []) :
    (e.plan (.ofText path text) layout).root.content = text := by
  have none : (e.group (e.patterns.scan (.ofText path text))).groups = [] := by simpa [plan] using idle
  exact (if_pos none).trans (Text.flatten_lines text)

/-- The root, put together from the outline of the text. -/
def assembled (e : Engine) (path : Path) (layout : Layout) (text : Text) : Text :=
  let o := e.patterns.scan (.ofText path text)
  if (e.plan (.ofText path text) layout).groups = [] then text
  else o.preamble ++ (Renderer.separator o.preamble ++ e.importLines layout o) ++ e.remainder (.ofText path text)

theorem root_content_eq_assembled (e : Engine) (path : Path) (layout : Layout) (text : Text) :
    (e.plan (.ofText path text) layout).root.content = e.assembled path layout text := by
  rw [assembled]
  split
  · rename_i idle
    exact root_content_of_idle idle
  · rename_i extracts
    exact root_content extracts

/-- A pass over a text that holds a name back leaves a root that does. -/
theorem holdsBack_root (safe : e.patterns.TrimSafe)
    (quiet : ∀ l ∈ e.insertedLines layout (.ofText path text), start? e.patterns l = none)
    (back : HoldsBack e.patterns e.table name text) :
    HoldsBack e.patterns e.table name (e.plan (.ofText path text) layout).root.content := by
  by_cases idle : (e.plan (.ofText path text) layout).groups = []
  · rwa [root_content_of_idle idle]
  · rw [insertedLines, Plan.isNoop, List.isEmpty_eq_false_iff.mpr idle, if_neg Bool.false_ne_true] at quiet
    have cut := segments_wellCut e.patterns (Text.lines text)
    have lined : Text.Lined ((segments e.patterns (Text.lines text)).2.flatMap Segment.lines) := by
      have lined := Text.lined_lines text
      rw [← segments_lines e.patterns (Text.lines text)] at lined
      exact lined.right
    have rest := lasting_left safe (opening e.patterns (.ofText path text)).length cut.2 lined back.clean back.held
    have lines := lines_root idle
    dsimp only at lines
    rw [lines_remainder, ← List.append_assoc, ← List.append_assoc] at lines
    refine rest.holdsBack lines (List.forall_mem_append.mpr ⟨List.forall_mem_append.mpr ⟨cut.1, ?_⟩, quiet⟩)
    exact quiet_separator safe.feedSafe _

theorem holdsBack_rootAfter (safe : e.patterns.TrimSafe)
    (inserted : ∀ n, ∀ l ∈ e.insertedLines layout (.ofText path (e.rootAfter path layout text n)),
      start? e.patterns l = none)
    (back : HoldsBack e.patterns e.table name text) (n : Nat) :
    HoldsBack e.patterns e.table name (e.rootAfter path layout text n) := by
  induction n with
  | zero => exact back
  | succ n ih => exact holdsBack_root safe (inserted n) ih

/-- A name that is held back is not extracted. -/
theorem notMem_of_holdsBack (back : HoldsBack e.patterns e.table name text) {g : GroupPlan}
    (member : g ∈ (e.plan (.ofText path text) layout).groups) : name ∉ g.declarations := by
  intro inside
  obtain ⟨group, grouped, rfl⟩ := List.mem_map.mp member
  obtain ⟨s, spanned, rfl⟩ := List.mem_map.mp inside
  obtain ⟨declared, moves⟩ := Grouped.mem_ofSpans_groups.mp (List.mem_flatMap.mpr ⟨group, grouped, spanned⟩)
  rw [scan_eq_outcome] at declared
  obtain ⟨q, part, found⟩ := List.mem_filterMap.mp declared
  obtain ⟨name, named, rfl⟩ := Option.map_eq_some_iff.mp found
  have stays := back.held.retains part named
  rw [moves] at stays
  cases stays

/-- A declaration that does not close is never extracted, whatever the number of passes, if no stray text with the
closing marker comes after it up to the next declaration that stays. The patterns look for nothing in line
terminators, no line of the text begins with a carriage return unless it holds terminators only, and no pass puts
a start into the root. -/
theorem failed_declaration_stays (e : Engine) (path : Path) (text : Text) (layout : Layout)
    (safe : e.patterns.TrimSafe) (clean : ∀ l ∈ Text.lines text, Text.StartsClean l)
    (inserted : ∀ n, ∀ l ∈ e.insertedLines layout (.ofText path (e.rootAfter path layout text n)),
      start? e.patterns l = none) :
    let o := e.patterns.scan (.ofText path text)
    ∀ name ∈ (e.plan (.ofText path text) layout).failureNames, (∀ s ∈ o.declarations, s.name ≠ name) →
      (∀ f r, f.name = name → o.Trails (e.group o).retained f r →
        Text.occursIn e.patterns.closingMarker r.text = false) →
      ∀ n, ∀ g ∈ (e.plan (.ofText path (e.rootAfter path layout text n)) layout).groups, name ∉ g.declarations := by
  intro o name _ unclosed unmarked n g member
  have cut := (segments_wellCut e.patterns (Text.lines text)).2
  have back : HoldsBack e.patterns e.table name text := by
    refine ⟨(clear_outline unclosed unmarked).held safe cut, fun g inside l here => clean l ?_⟩
    exact mem_of_mem_segments inside here
  exact notMem_of_holdsBack (holdsBack_rootAfter safe inserted back n) member

/-- An engine for declarations between `<` and `>` that keeps one name. Lines that match `other` are starts too. -/
def angled (kept other : String) (banner : Option Text) : Engine where
  patterns :=
    { introducer := (Pattern.compile false ("^(?:fn ([a-z]+)" ++ other ++ ")").toList).toOption.getD
        ScanPatterns.sample.introducer
      aggregator := none
      openChar := '<'
      closeChar := '>'
      closingMarker := ">".toList }
  table := { rules := [], retained := [kept.toList] }
  catalog := Engine.sample.catalog
  renderer := { rootBanner := banner, imports := { root := some "use \x7bnames\x7d".toList } }

/-- Here `a` is held back, while `d` is extracted in the second pass. -/
theorem failed_declaration_stays_sample :
    let e := angled "c" "" none
    let root := e.rootAfter ⟨[]⟩ .sample "fn a <\nfn b <>\n<\nfn c <>\n>\nfn d <\nfn b <>\n>\n".toList
    let plan (n : Nat) := e.plan (.ofText ⟨[]⟩ (root n)) .sample
    (plan 0).failureNames = ["a".toList, "d".toList] ∧ (∃ g ∈ (plan 1).groups, "d".toList ∈ g.declarations) ∧
      ∀ n, ∀ g ∈ (plan n).groups, "a".toList ∉ g.declarations := by
  intro e root plan
  have next (n : Nat) : root (n + 1) = e.assembled ⟨[]⟩ .sample (root n) := root_content_eq_assembled ..
  have second : root 1 = "use b, b\n\nfn a <\n\n<\n\nfn c <>\n\n>\n\nfn d <\n\n>\n".toList := by
    rw [next 0]
    decide +kernel
  have third : root 2 = "use b, b\n\nuse d\n\nfn a <\n\n<\n\nfn c <>\n\n>\n".toList := by
    rw [next 1, second]
    decide +kernel
  have fixed : root 3 = root 2 := by
    rw [next 2, third]
    decide +kernel
  have failed : (plan 0).failureNames = ["a".toList, "d".toList] := by decide +kernel
  have safe : e.patterns.TrimSafe := ⟨by decide +kernel, by decide, by decide, by decide, by decide⟩
  have inserted : ∀ n, ∀ l ∈ e.insertedLines .sample (.ofText ⟨[]⟩ (root n)), start? e.patterns l = none
    | 0 => by decide +kernel
    | 1 => by
      rw [second]
      decide +kernel
    | n + 2 => by
      rw [Nat.add_comm, show root (2 + n) = root 2 from rootAfter_of_fixed fixed n, third]
      decide +kernel
  have strays : let o := e.patterns.scan (.ofText ⟨[]⟩ (root 0))
      ∀ f ∈ o.failures, f.name = "a".toList → ∀ r ∈ o.residue, f.line < r.first →
        (∀ s ∈ (e.group o).retained, s.first < f.line ∨ r.first < s.first) →
          (∀ g ∈ o.failures, g.line ≠ r.first) → Text.occursIn e.patterns.closingMarker r.text = false := by
    decide +kernel
  refine ⟨failed, ?_, ?_⟩
  · simp only [plan, second]
    decide +kernel
  · exact failed_declaration_stays e ⟨[]⟩ (root 0) .sample safe (by decide +kernel) inserted "a".toList
      (show _ ∈ (plan 0).failureNames from failed ▸ List.mem_cons_self) (by decide +kernel)
      fun f r same trails => strays f trails.failed same r trails.left trails.after trails.before trails.stray

/-! ## Declarations that come back -/

/-- A declaration of the name does not close, and the second pass extracts it. -/
def Returns (e : Engine) (text name : Text) : Prop :=
  name ∈ (e.plan (.ofText ⟨[]⟩ text) .sample).failureNames ∧
    (∀ s ∈ (e.patterns.scan (.ofText ⟨[]⟩ text)).declarations, s.name ≠ name) ∧
    ∃ g ∈ (e.plan (.ofText ⟨[]⟩ (e.rootAfter ⟨[]⟩ .sample text 1)) .sample).groups, name ∈ g.declarations

instance (e : Engine) (text name : Text) : Decidable (e.Returns text name) :=
  decidable_of_iff
    (name ∈ (e.plan (.ofText ⟨[]⟩ text) .sample).failureNames ∧
      (∀ s ∈ (e.patterns.scan (.ofText ⟨[]⟩ text)).declarations, s.name ≠ name) ∧
      ∃ g ∈ (e.plan (.ofText ⟨[]⟩ (e.assembled ⟨[]⟩ .sample text)) .sample).groups, name ∈ g.declarations)
    (by rw [← root_content_eq_assembled]; rfl)

/-- An engine with other delimiters and another marker. -/
def delimited (openChar closeChar : Char) (marker : String) (e : Engine) : Engine :=
  { e with patterns := { e.patterns with openChar, closeChar, closingMarker := marker.toList } }

/-- The second pass extracts a declaration that did not close before if stray text closes it. It may do so as well,
without such text, if a line that is put into the root or an empty line is a start, if a line begins with a carriage
return, if a delimiter is a line terminator, and if the marker holds a line feed or is blank. -/
theorem failed_declaration_returns :
    (angled "c" "" none).Returns "fn a <\nfn b <>\n>\n".toList "a".toList ∧
      (angled "c" "" (some "fn a <>".toList)).Returns "fn b <>\nfn a <\n".toList "a".toList ∧
      (angled "c" "|$" none).Returns "\nfn b <>\nfn c <>\nx <>\n".toList [] ∧
      (angled "c" "" none).Returns "fn a <\nfn b <>\nfn c <>\n\rfn a <>\n".toList "a".toList ∧
      ((angled "c" "" none).delimited '\n' '>' "x").Returns "fn b x>\nfn a >x".toList "a".toList ∧
      ((angled "c" "" none).delimited '\r' '>' "x").Returns "fn b \rx>\nfn a \r>x\r\n".toList "a".toList ∧
      ((angled "c" "" none).delimited '<' '\n' "x").Returns "fn b <x\nfn a <x".toList "a".toList ∧
      ((angled "c" "" none).delimited '<' '\r' "x").Returns "fn b <x\r\nfn a <\rx\r\n".toList "a".toList ∧
      ((angled "c" "" none).delimited '<' '>' ">\n").Returns "fn b <>\nfn a <>".toList "a".toList ∧
      ((angled "" "| " none).delimited ' ' '\t' " ").Returns "fn b\t\nfn a\n \t\nx \t\t\n".toList "a".toList := by
  decide +kernel

end Engine

end Cleave
