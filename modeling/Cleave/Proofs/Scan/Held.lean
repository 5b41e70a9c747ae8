import Cleave.Proofs.Plan.Grouping
import Cleave.Proofs.Scan.Composed
import Cleave.Proofs.Text.Trim

/-!
# Declarations that are held back

A declaration that does not close goes on to the next start, and if the declaration there is taken away, on to the
one after it. It stays open as long as no line with the closing marker comes to stand in its reach. This is what
`Held` says of all declarations of one name: they do not close, and up to the next declaration that stays, nothing
that is left of the others holds the marker. A name that is held is not extracted (`Held.retains`).
-/

namespace Cleave.Scan

variable {p : ScanPatterns} {table : RuleTable} {name : Text} {near : Bool}

/-- None of the lines holds the closing marker. -/
def Unmarked (p : ScanPatterns) (ls : List Text) : Prop :=
  ∀ l ∈ ls, Text.occursIn p.closingMarker l = false

theorem closes_append_of_unmarked {ls more : List Text} (unmarked : Unmarked p more) (filled : more ≠ []) :
    closes p (ls ++ more) = false := by
  obtain ⟨init, l, rfl⟩ := (List.eq_nil_or_concat more).resolve_left filled
  have last := unmarked l (by simp)
  rw [List.concat_eq_append, ← List.append_assoc, closes, List.getLast?_concat, Option.any_some, last, Bool.and_false]

/-- Lines without the closing marker do not close a declaration before them. -/
theorem blockLength?_append_of_unmarked {ls more : List Text} (unmarked : Unmarked p more)
    (stuck : blockLength? p ls = none) : blockLength? p (ls ++ more) = none := by
  rw [blockLength?_eq_none] at stuck ⊢
  intro k below
  by_cases short : k ≤ ls.length
  · rw [List.take_append_of_le_length short]
    exact stuck k short
  · rw [List.take_append, List.take_of_length_le (by omega)]
    refine closes_append_of_unmarked (fun l member => unmarked l (List.mem_of_mem_take member)) fun none => ?_
    have length := congrArg List.length none
    rw [List.length_append] at below
    rw [List.length_take, List.length_nil] at length
    omega

theorem mem_of_mem_segments {ls : List Text} {g : Segment} {l : Text} (inside : g ∈ (segments p ls).2)
    (member : l ∈ g.lines) : l ∈ ls := by
  rw [← segments_lines p ls]
  exact List.mem_append_right _ (List.mem_flatMap.mpr ⟨g, inside, member⟩)

namespace Segment

/-- A segment with more lines. -/
def extend (g : Segment) (ls : List Text) : Segment :=
  { g with tail := g.tail ++ ls }

@[simp]
theorem lines_extend (g : Segment) (ls : List Text) : (g.extend ls).lines = g.lines ++ ls := rfl

theorem WellCut.segments_append {g : Segment} (cut : g.WellCut p) (ls : List Text) :
    segments p (g.lines ++ ls) = ([], g.extend (segments p ls).1 :: (segments p ls).2) := by
  simp only [lines, List.cons_append, segments, cut.head, segments_append_loose cut.tail, extend]

end Segment

/-- In these segments a name is held back. If `near`, an open declaration of the name may reach up to them. -/
inductive Held (p : ScanPatterns) (table : RuleTable) (name : Text) : (near : Bool) → List Segment → Prop
  | nil {near : Bool} : Held p table name near []
  /-- Nothing after the aggregator is scanned. -/
  | aggregator {near : Bool} {g : Segment} {gs : List Segment} {k : Nat} (block : blockLength? p g.lines = some k)
      (aggregates : g.start.aggregates = true) : Held p table name near (g :: gs)
  /-- A declaration that stays is a boundary, whether it closes or not. -/
  | boundary {near : Bool} {g : Segment} {gs : List Segment} (stays : table.retains g.start.name = true)
      (filled : Text.isBlank g.lines.flatten = false) (rest : Held p table name false gs) :
      Held p table name near (g :: gs)
  /-- A declaration that closes may be taken away; the lines after it are left. -/
  | closing {near : Bool} {g : Segment} {gs : List Segment} {k : Nat} (block : blockLength? p g.lines = some k)
      (other : g.start.name ≠ name) (unmarked : near = true → Unmarked p (g.lines.drop k))
      (rest : Held p table name near gs) : Held p table name near (g :: gs)
  | failing {near : Bool} {g : Segment} {gs : List Segment} (stuck : blockLength? p g.lines = none)
      (rest : Held p table name (near || decide (g.start.name = name)) gs) : Held p table name near (g :: gs)

namespace Held

variable {g : Segment} {gs : List Segment} {k : Nat}

theorem weaken (held : Held p table name near gs) : Held p table name false gs := by
  induction held with
  | nil => exact .nil
  | aggregator block aggregates => exact .aggregator block aggregates
  | boundary stays filled rest => exact .boundary stays filled rest
  | closing block other _ _ ih => exact .closing block other nofun ih
  | @failing near g gs stuck rest ih =>
    refine .failing stuck ?_
    rw [Bool.false_or]
    cases same : decide (g.start.name = name) with
    | true => rwa [same, Bool.or_true] at rest
    | false => exact ih

theorem of_closing (held : Held p table name near (g :: gs)) (block : blockLength? p g.lines = some k)
    (regular : g.start.aggregates = false) : Held p table name false gs := by
  cases held with
  | aggregator _ aggregates => cases regular.symm.trans aggregates
  | boundary _ _ rest => exact rest
  | closing _ _ _ rest => exact rest.weaken
  | failing stuck _ => cases block.symm.trans stuck

theorem of_moves (held : Held p table name near (g :: gs)) (block : blockLength? p g.lines = some k)
    (regular : g.start.aggregates = false) (moves : table.retains g.start.name = false) :
    g.start.name ≠ name ∧ (near = true → Unmarked p (g.lines.drop k)) ∧ Held p table name near gs := by
  cases held with
  | aggregator _ aggregates => cases regular.symm.trans aggregates
  | boundary stays _ _ => cases moves.symm.trans stays
  | closing again other unmarked rest =>
    cases block.symm.trans again
    exact ⟨other, unmarked, rest⟩
  | failing stuck _ => cases block.symm.trans stuck

theorem of_stuck (held : Held p table name near (g :: gs)) (stuck : blockLength? p g.lines = none) :
    (table.retains g.start.name = true ∧ Text.isBlank g.lines.flatten = false ∧ Held p table name false gs) ∨
      Held p table name (near || decide (g.start.name = name)) gs := by
  cases held with
  | aggregator block _ => cases stuck.symm.trans block
  | boundary stays filled rest => exact .inl ⟨stays, filled, rest⟩
  | closing block _ _ _ => cases stuck.symm.trans block
  | failing _ rest => exact .inr rest

/-- A declaration of a name that is held back stays if it closes. -/
theorem retains {s : Nat} (held : Held p table name near gs) {q : Part} (member : q ∈ (outline p s gs).parts)
    (named : q.name = some name) : table.retains name = true := by
  fun_induction outline p s gs generalizing near with
  | case1 => simp at member
  | case2 s g gs k block aggregates => simp at member
  | case3 s g gs k block aggregates ih =>
    have regular : g.start.aggregates = false := by simpa using aggregates
    cases stays : table.retains g.start.name with
    | true =>
      rcases List.mem_append.mp member with front | later
      · rcases List.mem_cons.mp front with rfl | left
        · cases named
          exact stays
        · rw [mem_loose left] at named
          cases named
      · exact ih (held.of_closing block regular) later
    | false =>
      obtain ⟨other, -, rest⟩ := held.of_moves block regular stays
      rcases List.mem_append.mp member with front | later
      · rcases List.mem_cons.mp front with rfl | left
        · exact absurd (Option.some.inj named) other
        · rw [mem_loose left] at named
          cases named
      · exact ih rest later
  | case4 s g gs block ih =>
    rcases List.mem_cons.mp member with rfl | later
    · cases named
    · rcases held.of_stuck block with ⟨-, -, rest⟩ | rest
      · exact ih rest later
      · exact ih rest later

end Held

/-! ## Lines in which a name is held back -/

/-- Lines that may follow a declaration of a name that is held back, or if not `near`, stand anywhere. -/
structure Lasting (p : ScanPatterns) (table : RuleTable) (name : Text) (near : Bool) (ls : List Text) : Prop where
  front : near = true → Unmarked p (segments p ls).1
  held : Held p table name near (segments p ls).2
  clean : ∀ l ∈ ls, Text.StartsClean l

namespace Lasting

variable {g : Segment} {ls : List Text}

theorem nil : Lasting p table name near [] :=
  ⟨fun _ => List.forall_mem_nil _, .nil, List.forall_mem_nil _⟩

theorem of_or {reached : Bool} (lasting : Lasting p table name (near || reached) ls) :
    Lasting p table name near ls := by
  cases near with
  | true => rwa [Bool.true_or] at lasting
  | false => exact ⟨nofun, lasting.held.weaken, lasting.clean⟩

theorem append_loose {qs : List Text} (quiet : ∀ l ∈ qs, start? p l = none) (clean : ∀ l ∈ qs, Text.StartsClean l)
    (unmarked : near = true → Unmarked p qs) (rest : Lasting p table name near ls) :
    Lasting p table name near (qs ++ ls) := by
  have cut := segments_append_loose quiet ls
  refine ⟨fun reached => ?_, ?_, List.forall_mem_append.mpr ⟨clean, rest.clean⟩⟩
  · rw [cut]
    exact List.forall_mem_append.mpr ⟨unmarked reached, rest.front reached⟩
  · rw [cut]
    exact rest.held

theorem boundary (cut : g.WellCut p) (clean : ∀ l ∈ g.lines, Text.StartsClean l)
    (stays : table.retains g.start.name = true) (filled : Text.isBlank g.lines.flatten = false)
    (rest : Lasting p table name false ls) : Lasting p table name near (g.lines ++ ls) := by
  have split := cut.segments_append ls
  refine ⟨fun _ => by simp [split, Unmarked], ?_, List.forall_mem_append.mpr ⟨clean, rest.clean⟩⟩
  rw [split]
  refine .boundary stays ?_ rest.held
  rw [Segment.lines_extend, List.flatten_append, Text.isBlank, List.all_append, ← Text.isBlank, filled,
    Bool.false_and]

/-- A declaration that is stuck stays so if it is of the name, or in reach of it; else it may close. -/
theorem failing (cut : g.WellCut p) (clean : ∀ l ∈ g.lines, Text.StartsClean l)
    (stuck : blockLength? p g.lines = none)
    (rest : Lasting p table name (near || decide (g.start.name = name)) ls) :
    Lasting p table name near (g.lines ++ ls) := by
  have split := cut.segments_append ls
  refine ⟨fun _ => by simp [split, Unmarked], ?_, List.forall_mem_append.mpr ⟨clean, rest.clean⟩⟩
  rw [split]
  cases block : blockLength? p (g.lines ++ (segments p ls).1) with
  | none => exact .failing block rest.held
  | some k =>
    cases reached : near || decide (g.start.name = name) with
    | true =>
      have still := blockLength?_append_of_unmarked (rest.front reached) stuck
      cases still.symm.trans block
    | false =>
      obtain ⟨far, other⟩ := Bool.or_eq_false_iff.mp reached
      have held := rest.held
      rw [reached] at held
      subst far
      exact .closing block (of_decide_eq_false other) nofun held

theorem aggregator {start : Text} {block : List Text} (declares : IsDeclaration p ⟨start, true⟩ block)
    (clean : ∀ l ∈ block ++ ls, Text.StartsClean l) : Lasting p table name near (block ++ ls) := by
  obtain ⟨g, split, kind, -, closed⟩ := declares.exists_segment ls
  refine ⟨fun _ => by simp [split, Unmarked], ?_, clean⟩
  rw [split]
  exact .aggregator closed (by rw [kind])

end Lasting

end Cleave.Scan
