import Cleave.Proofs.Plan.Rerun

/-!
# Stray text

Text that is left behind the declarations of a scan may come to stand behind a declaration that did not close. Where
no such text with the closing marker follows the declarations of a name, up to the next declaration that stays, the
name is held back (`Clear.held`).
-/

namespace Cleave

/-- The line that a declaration starts on. -/
def ScanFailure.line : ScanFailure → Nat
  | unterminated _ line => line
  | interrupted _ line _ => line

/-- Stray text after a declaration that does not close, up to the next of the given declarations. -/
structure ScanOutcome.Trails (o : ScanOutcome) (kept : List Span) (f : ScanFailure) (r : Residue) : Prop where
  failed : f ∈ o.failures
  left : r ∈ o.residue
  /-- The text is not itself that of a declaration that does not close. -/
  stray : ∀ g ∈ o.failures, g.line ≠ r.first
  after : f.line < r.first
  before : ∀ s ∈ kept, s.first < f.line ∨ r.first < s.first

namespace ScanPatterns.TrimSafe

variable {p : ScanPatterns}

theorem feedSafe (safe : p.TrimSafe) : p.FeedSafe where
  empty := safe.empty
  opens same := by simpa [same, Text.isTerminator] using safe.opens
  closes same := by simpa [same, Text.isTerminator] using safe.closes
  marker := safe.marker

end ScanPatterns.TrimSafe

namespace Scan

variable {p : ScanPatterns} {table : RuleTable} {name : Text} {near : Bool}

/-- Whether a part is a declaration that stays. -/
def Part.kept (table : RuleTable) (q : Part) : Bool :=
  q.name.any table.retains

/-- A part that is neither a declaration nor that of a failure. -/
structure Outline.Stray (r : Outline) (q : Part) : Prop where
  inside : q ∈ r.parts
  unnamed : q.name = none
  apart : ∀ f ∈ r.failures, f.line ≠ q.first

/-- No declaration of the name closes, and no stray part with the closing marker follows one, up to the next
declaration that stays. If `near`, this holds of the stray parts at the beginning as well. -/
structure Outline.Clear (p : ScanPatterns) (table : RuleTable) (name : Text) (near : Bool) (r : Outline) : Prop where
  unclosed : ∀ q ∈ r.parts, q.name ≠ some name
  front : near = true → ∀ q, r.Stray q → (∀ s ∈ r.parts, s.kept table = true → q.first < s.first) → Unmarked p q.lines
  behind : ∀ f ∈ r.failures, f.name = name → ∀ q, r.Stray q → f.line < q.first →
    (∀ s ∈ r.parts, s.kept table = true → s.first < f.line ∨ q.first < s.first) → Unmarked p q.lines

theorem outline_parts_le {s : Nat} {gs : List Segment} {q : Part} (member : q ∈ (outline p s gs).parts) :
    s ≤ q.first := by
  obtain ⟨a, -, -, first, -⟩ := (outline_tiled p s gs).exists_lines (List.mem_append_left _ member)
  omega

theorem outline_failures_le {s : Nat} {gs : List Segment} {f : ScanFailure}
    (member : f ∈ (outline p s gs).failures) : s ≤ f.line := by
  fun_induction outline p s gs with
  | case1 => cases member
  | case2 s g gs k block aggregates => cases member
  | case3 s g gs k block regular ih => exact Nat.le_of_add_right_le (ih member)
  | case4 s g gs block ih =>
    rcases List.mem_cons.mp member with rfl | later
    · cases gs <;> exact Nat.le_refl s
    · exact Nat.le_of_add_right_le (ih later)

theorem Segment.length_pos (g : Segment) : 0 < g.lines.length :=
  Nat.zero_lt_succ _

namespace Outline.Clear

variable {s k : Nat} {g : Segment} {gs : List Segment}

theorem mem_declaring {r : Outline} {q x : Part} {t : Nat} {more : List Text} :
    x ∈ (r.declaring q (loose t more)).parts ↔ x = q ∨ (more ≠ [] ∧ x = ⟨none, t, more⟩) ∨ x ∈ r.parts := by
  rw [Outline.declaring, loose]
  split
  · rename_i none
    simp [none]
  · rename_i filled
    simp [filled]

/-- After a declaration that closes, the rest is clear; behind one that stays, nothing is in reach any more. -/
theorem of_declaring
    (clear : Clear p table name near ((outline p (s + g.lines.length) gs).declaring
      ⟨some g.start.name, s, g.lines.take k⟩ (loose (s + k) (g.lines.drop k)))) :
    Clear p table name (near && !table.retains g.start.name) (outline p (s + g.lines.length) gs) := by
  have lift {q : Part} (stray : (outline p (s + g.lines.length) gs).Stray q) :
      ((outline p (s + g.lines.length) gs).declaring ⟨some g.start.name, s, g.lines.take k⟩
        (loose (s + k) (g.lines.drop k))).Stray q :=
    ⟨mem_declaring.mpr (.inr (.inr stray.inside)), stray.unnamed, stray.apart⟩
  refine ⟨fun q member => clear.unclosed q (mem_declaring.mpr (.inr (.inr member))), fun reached q stray bounds => ?_,
    fun f failed same q stray after bounds => ?_⟩
  · obtain ⟨close, moves⟩ := Bool.and_eq_true_iff.mp reached
    refine clear.front close q (lift stray) fun x member kept => ?_
    rcases mem_declaring.mp member with rfl | ⟨-, rfl⟩ | later
    · rw [Part.kept, Option.any_some] at kept
      rw [kept] at moves
      cases moves
    · cases kept
    · exact bounds x later kept
  · refine clear.behind f failed same q (lift stray) after fun x member kept => ?_
    rcases mem_declaring.mp member with rfl | ⟨-, rfl⟩ | later
    · -- the declaration comes before the failure, so it is no boundary behind it
      have reach := outline_failures_le failed
      have positive := g.length_pos
      exact .inl (by show s < f.line; omega)
    · cases kept
    · exact bounds x later kept

/-- The lines after a declaration that closes and moves are in reach. -/
theorem unmarked_drop (moves : table.retains g.start.name = false)
    (clear : Clear p table name true ((outline p (s + g.lines.length) gs).declaring
      ⟨some g.start.name, s, g.lines.take k⟩ (loose (s + k) (g.lines.drop k)))) : Unmarked p (g.lines.drop k) := by
  by_cases short : k < g.lines.length
  · have filled : g.lines.drop k ≠ [] := by simpa using short
    refine clear.front rfl ⟨.none, s + k, g.lines.drop k⟩ ⟨?_, rfl, fun f failed same => ?_⟩ fun x member kept => ?_
    · exact mem_declaring.mpr (.inr (.inl ⟨filled, rfl⟩))
    · have reach := outline_failures_le failed
      have line : f.line = s + k := same
      omega
    · rcases mem_declaring.mp member with rfl | ⟨-, rfl⟩ | later
      · rw [Part.kept, Option.any_some, moves] at kept
        cases kept
      · cases kept
      · have reach := outline_parts_le later
        show s + k < x.first
        omega
  · rw [List.drop_eq_nil_of_le (Nat.le_of_not_lt short)]
    exact List.forall_mem_nil _

/-- After a declaration that does not close, the rest is clear, and in reach if the declaration is of the name. -/
theorem of_failing
    (clear : Clear p table name near ((outline p (s + g.lines.length) gs).failing ⟨none, s, g.lines⟩
      (failureAt g.start.name s (s + g.lines.length) gs))) :
    Clear p table name (near || decide (g.start.name = name)) (outline p (s + g.lines.length) gs) := by
  have line : (failureAt g.start.name s (s + g.lines.length) gs).line = s ∧
      (failureAt g.start.name s (s + g.lines.length) gs).name = g.start.name := by
    cases gs <;> exact ⟨rfl, rfl⟩
  have lift {q : Part} (stray : (outline p (s + g.lines.length) gs).Stray q) :
      ((outline p (s + g.lines.length) gs).failing ⟨none, s, g.lines⟩
        (failureAt g.start.name s (s + g.lines.length) gs)).Stray q := by
    refine ⟨List.mem_cons_of_mem _ stray.inside, stray.unnamed, List.forall_mem_cons.mpr ⟨?_, stray.apart⟩⟩
    have reach := outline_parts_le stray.inside
    have positive := g.length_pos
    omega
  refine ⟨fun q member => clear.unclosed q (List.mem_cons_of_mem _ member), fun reached q stray bounds => ?_,
    fun f failed same q stray after bounds => ?_⟩
  · rcases Bool.or_eq_true_iff.mp reached with close | own
    · refine clear.front close q (lift stray) fun x member kept => ?_
      rcases List.mem_cons.mp member with rfl | later
      · cases kept
      · exact bounds x later kept
    · have reach := outline_parts_le stray.inside
      have positive := g.length_pos
      refine clear.behind _ List.mem_cons_self (line.2.trans (of_decide_eq_true own)) q (lift stray) (by omega)
        fun x member kept => ?_
      rcases List.mem_cons.mp member with rfl | later
      · cases kept
      · exact .inr (bounds x later kept)
  · refine clear.behind f (List.mem_cons_of_mem _ failed) same q (lift stray) after fun x member kept => ?_
    rcases List.mem_cons.mp member with rfl | later
    · cases kept
    · exact bounds x later kept

/-- Where nothing can close the declarations of a name, the name is held back. -/
theorem held (safe : p.TrimSafe) (cut : ∀ g ∈ gs, g.WellCut p) (clear : Clear p table name near (outline p s gs)) :
    Held p table name near gs := by
  fun_induction outline p s gs generalizing near with
  | case1 => exact .nil
  | case2 s g gs k block aggregates => exact .aggregator block aggregates
  | case3 s g gs k block aggregates ih =>
    obtain ⟨cutHere, cutLater⟩ := List.forall_mem_cons.mp cut
    have rest := ih cutLater clear.of_declaring
    cases stays : table.retains g.start.name with
    | true =>
      rw [stays, Bool.not_true, Bool.and_false] at rest
      refine .boundary stays ?_ rest
      have filled := (cutHere.isDeclaration block).not_blank safe.feedSafe
      rw [Bool.eq_false_iff] at filled ⊢
      refine fun blank => filled (Text.isBlank_of_subset (fun c inside => ?_) blank)
      obtain ⟨l, taken, here⟩ := List.mem_flatten.mp inside
      exact List.mem_flatten.mpr ⟨l, List.mem_of_mem_take taken, here⟩
    | false =>
      rw [stays, Bool.not_false, Bool.and_true] at rest
      refine .closing block (fun same => ?_) (fun reached => ?_) rest
      · exact clear.unclosed _ (mem_declaring.mpr (.inl rfl)) (congrArg some same)
      · subst reached
        exact clear.unmarked_drop stays
  | case4 s g gs block ih =>
    exact .failing block (ih (List.forall_mem_cons.mp cut).2 clear.of_failing)

end Outline.Clear

end Scan

namespace Engine

open Scan

variable {e : Engine} {name : Text}

theorem span_of_name {p : ScanPatterns} {d : Document} {q : Part} {name : Text} (member : q ∈ (outlineOf p d).parts)
    (named : q.name = some name) :
    (⟨name, q.first, q.first + (q.lines.length - 1), q.text⟩ : Span) ∈ (p.scan d).declarations := by
  rw [scan_eq_outcome]
  exact List.mem_filterMap.mpr ⟨q, member, Part.span?_of_name named⟩

/-- What is said of the stray text of a scan holds of the stray parts of its outline. -/
theorem clear_outline {d : Document} (unclosed : ∀ s ∈ (e.patterns.scan d).declarations, s.name ≠ name)
    (unmarked : ∀ f r, f.name = name → (e.patterns.scan d).Trails (e.group (e.patterns.scan d)).retained f r →
      Text.occursIn e.patterns.closingMarker r.text = false) :
    (outlineOf e.patterns d).Clear e.patterns e.table name false := by
  refine ⟨fun q member named => unclosed _ (span_of_name member named) rfl, nofun,
    fun f failed same q stray after bounds => ?_⟩
  have marker := unmarked f ⟨q.first, q.text⟩ same ⟨?_, ?_, ?_, after, fun s kept => ?_⟩
  · intro l member
    rw [Bool.eq_false_iff, Ne, occursIn_iff] at marker ⊢
    exact fun inside => marker (inside.trans (List.infix_of_mem_flatten member))
  · rw [scan_eq_outcome]
    exact failed
  · rw [scan_eq_outcome]
    exact List.mem_filterMap.mpr ⟨q, stray.inside, by rw [Part.residue?, stray.unnamed]; rfl⟩
  · rw [scan_eq_outcome]
    exact stray.apart
  · rw [group, Grouped.ofSpans_retained, List.mem_filter, scan_eq_outcome] at kept
    obtain ⟨declared, stays⟩ := kept
    obtain ⟨x, member, found⟩ := List.mem_filterMap.mp declared
    obtain ⟨name, named, rfl⟩ := Option.map_eq_some_iff.mp found
    exact bounds x member (by rwa [Part.kept, named, Option.any_some])

end Engine

end Cleave
