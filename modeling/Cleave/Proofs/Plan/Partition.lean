import Mathlib.Data.List.Induction
import Mathlib.Data.List.Nodup
import Cleave.Proofs.Plan.Grouping

/-!
# Groups partition the declarations

The rules send every declaration to a domain or keep it in the root. While declarations are taken in one after the
other, the groups stay sorted by what the rules say (`Sorted`): each holds, in order, the declarations sent to its
key, no key has two groups, and the groups stand in the order in which their keys appear first. So the groups and the
declarations that stay are a partition of all declarations (`group_partition`).
-/

namespace Cleave

/-- The domain that a declaration moves to, if it moves. -/
def Assignment.key? : Assignment → Option DomainKey
  | retained => none
  | domain key _ => some key

/-- Whether a declaration moves to a domain that no rule names for it. -/
def Assignment.fallsBack : Assignment → Bool
  | domain _ matched => !matched
  | retained => false

/-- Whether the rules send a declaration to the domain of a key. -/
def RuleTable.sends (table : RuleTable) (key : DomainKey) (s : Span) : Bool :=
  decide ((table.assign s.name).key? = some key)

namespace Grouped

variable {table : RuleTable} {key : DomainKey} {span : Span} {spans : List Span} {gs : List DomainGroup}

theorem sends_of_assign {matched : Bool} (assigned : table.assign span.name = .domain key matched) :
    table.sends key span = true := by
  simp [RuleTable.sends, assigned, Assignment.key?]

theorem sends_of_retains (stays : table.retains span.name = true) (key : DomainKey) :
    table.sends key span = false := by
  have assigned : table.assign span.name = .retained := of_decide_eq_true stays
  simp [RuleTable.sends, assigned, Assignment.key?]

/-- A declaration is sent to one domain at most. -/
theorem sends_of_ne {other : DomainKey} (sent : table.sends key span = true) (differs : other ≠ key) :
    table.sends other span = false := by
  rw [RuleTable.sends, decide_eq_true_eq] at sent
  rw [RuleTable.sends, sent, decide_eq_false_iff_not, Option.some.injEq]
  exact differs.symm

theorem exists_mem_concat (key : DomainKey) (spans : List Span) (span : Span) :
    (∃ s ∈ spans ++ [span], table.sends key s = true) ↔
      (∃ s ∈ spans, table.sends key s = true) ∨ table.sends key span = true := by
  simp [or_and_right, exists_or]

/-! ## Adding to the group of a key -/

theorem addTo_of_notMem (fresh : key ∉ gs.map DomainGroup.key) : addTo key span gs = gs ++ [⟨key, [span]⟩] := by
  induction gs with
  | nil => rfl
  | cons g gs ih =>
    rw [List.map_cons, List.mem_cons, not_or] at fresh
    rw [addTo, if_neg fun same => fresh.1 same.symm, ih fresh.2, List.cons_append]

/-- The declarations of a group after one more was sent to a key. -/
def extend (key : DomainKey) (span : Span) (g : DomainGroup) : DomainGroup :=
  if g.key = key then { g with spans := g.spans ++ [span] } else g

@[simp]
theorem extend_key (key : DomainKey) (span : Span) (g : DomainGroup) : (extend key span g).key = g.key := by
  rw [extend]
  split <;> rfl

theorem extend_spans (key : DomainKey) (span : Span) (g : DomainGroup) :
    (extend key span g).spans = g.spans ++ if g.key = key then [span] else [] := by
  rw [extend]
  split
  · rfl
  · rw [List.append_nil]

theorem map_key_extend (key : DomainKey) (span : Span) (gs : List DomainGroup) :
    (gs.map (extend key span)).map DomainGroup.key = gs.map DomainGroup.key := by
  rw [List.map_map]
  exact List.map_congr_left fun g _ => extend_key key span g

/-- A key that has a group gets no second one. -/
theorem addTo_of_mem (distinct : (gs.map DomainGroup.key).Nodup) (known : key ∈ gs.map DomainGroup.key) :
    addTo key span gs = gs.map (extend key span) := by
  induction gs with
  | nil => simp at known
  | cons g gs ih =>
    obtain ⟨fresh, distinct⟩ := List.nodup_cons.mp distinct
    rw [addTo, List.map_cons]
    split
    · rename_i here
      have others : gs.map (extend key span) = gs.map id := by
        refine List.map_congr_left fun h member => if_neg fun same => fresh ?_
        rw [here, ← same]
        exact List.mem_map_of_mem member
      rw [others, List.map_id, extend, if_pos here]
    · rename_i other
      have later : key ∈ gs.map DomainGroup.key := (List.mem_cons.mp known).resolve_left fun same => other same.symm
      rw [ih distinct later, extend, if_neg other]

/-! ## Groups that are sorted -/

/-- Groups that hold the declarations sent to them: one for each key that a declaration is sent to, in the order of
the first declarations, and each with its declarations in order. -/
structure Sorted (table : RuleTable) (spans : List Span) (gs : List DomainGroup) : Prop where
  distinct : (gs.map DomainGroup.key).Nodup
  complete : ∀ key, key ∈ gs.map DomainGroup.key ↔ ∃ s ∈ spans, table.sends key s = true
  spans_eq : ∀ g ∈ gs, g.spans = spans.filter (table.sends g.key)
  ordered : gs.Pairwise fun g h => spans.findIdx (table.sends g.key) < spans.findIdx (table.sends h.key)

namespace Sorted

theorem nil (table : RuleTable) : Sorted table [] [] :=
  ⟨.nil, by simp, by simp, .nil⟩

theorem spans_ne_nil (sorted : Sorted table spans gs) {g : DomainGroup} (member : g ∈ gs) : g.spans ≠ [] := by
  obtain ⟨s, inside, sent⟩ := (sorted.complete g.key).mp (List.mem_map_of_mem member)
  rw [sorted.spans_eq g member]
  exact List.ne_nil_of_mem (List.mem_filter.mpr ⟨inside, sent⟩)

/-- Where a key appears first does not change when declarations follow. -/
theorem findIdx_append (sorted : Sorted table spans gs) {g : DomainGroup} (member : g ∈ gs) (more : List Span) :
    (spans ++ more).findIdx (table.sends g.key) = spans.findIdx (table.sends g.key) := by
  have found := List.findIdx_lt_length.mpr ((sorted.complete g.key).mp (List.mem_map_of_mem member))
  rw [List.findIdx_append, if_pos found]

theorem ordered_append (sorted : Sorted table spans gs) (more : List Span) :
    gs.Pairwise fun g h =>
      (spans ++ more).findIdx (table.sends g.key) < (spans ++ more).findIdx (table.sends h.key) := by
  refine sorted.ordered.imp_of_mem fun {g h} first second before => ?_
  rwa [sorted.findIdx_append first, sorted.findIdx_append second]

/-- A declaration that stays makes no difference to the groups. -/
theorem of_retains (sorted : Sorted table spans gs) (stays : table.retains span.name = true) :
    Sorted table (spans ++ [span]) gs where
  distinct := sorted.distinct
  complete key := by
    rw [exists_mem_concat, sends_of_retains stays, sorted.complete key]
    simp
  spans_eq g member := by simp [sorted.spans_eq g member, sends_of_retains stays]
  ordered := sorted.ordered_append _

/-- A declaration that is sent to a key that has a group. -/
theorem of_known (sorted : Sorted table spans gs) (sent : table.sends key span = true)
    (known : key ∈ gs.map DomainGroup.key) : Sorted table (spans ++ [span]) (gs.map (extend key span)) where
  distinct := by
    rw [map_key_extend]
    exact sorted.distinct
  complete other := by
    rw [map_key_extend, exists_mem_concat, sorted.complete other]
    refine ⟨.inl, fun either => either.elim id fun sentThere => ?_⟩
    by_cases same : other = key
    · exact same ▸ (sorted.complete key).mp known
    · rw [sends_of_ne sent same] at sentThere
      cases sentThere
  spans_eq g member := by
    obtain ⟨g, inside, rfl⟩ := List.mem_map.mp member
    rw [extend_spans, extend_key, sorted.spans_eq g inside, List.filter_append, List.filter_singleton]
    by_cases same : g.key = key
    · simp [same, sent]
    · simp [same, sends_of_ne sent same]
  ordered := by
    rw [List.pairwise_map]
    simpa using sorted.ordered_append [span]

/-- A declaration that is sent to a key for the first time. -/
theorem of_fresh (sorted : Sorted table spans gs) (sent : table.sends key span = true)
    (fresh : key ∉ gs.map DomainGroup.key) : Sorted table (spans ++ [span]) (gs ++ [⟨key, [span]⟩]) := by
  have unseen : ∀ s ∈ spans, table.sends key s = false := by
    intro s member
    rw [Bool.eq_false_iff]
    exact fun sent => fresh ((sorted.complete key).mpr ⟨s, member, sent⟩)
  have others {g : DomainGroup} (member : g ∈ gs) : table.sends g.key span = false :=
    sends_of_ne sent fun same => fresh (same ▸ List.mem_map_of_mem member)
  constructor
  · rw [List.map_append, List.map_singleton]
    exact List.Nodup.append sorted.distinct (List.nodup_singleton key) (by simpa using fresh)
  · intro other
    rw [List.map_append, List.mem_append, exists_mem_concat, sorted.complete other, List.map_singleton,
      List.mem_singleton]
    refine or_congr_right ⟨fun same => same ▸ sent, fun sentThere => ?_⟩
    by_contra differs
    rw [sends_of_ne sent differs] at sentThere
    cases sentThere
  · intro g member
    rw [List.filter_append, List.filter_singleton]
    rcases List.mem_append.mp member with old | new
    · simp [sorted.spans_eq g old, others old]
    · obtain rfl := List.mem_singleton.mp new
      have none : spans.filter (table.sends key) = [] := List.filter_eq_nil_iff.mpr (by simpa using unseen)
      simp [none, sent]
  · refine List.pairwise_append.mpr ⟨sorted.ordered_append _, List.pairwise_singleton .., fun g old h new => ?_⟩
    obtain rfl := List.mem_singleton.mp new
    have before := List.findIdx_lt_length.mpr ((sorted.complete g.key).mp (List.mem_map_of_mem old))
    have last : spans.findIdx (table.sends key) = spans.length := List.findIdx_eq_length_of_false unseen
    rw [sorted.findIdx_append old, List.findIdx_append, last, if_neg (Nat.lt_irrefl _)]
    omega

theorem of_sends (sorted : Sorted table spans gs) (sent : table.sends key span = true) :
    Sorted table (spans ++ [span]) (addTo key span gs) := by
  by_cases known : key ∈ gs.map DomainGroup.key
  · rw [addTo_of_mem sorted.distinct known]
    exact sorted.of_known sent known
  · rw [addTo_of_notMem known]
    exact sorted.of_fresh sent known

end Sorted

/-- Taking in one declaration keeps the groups sorted. -/
theorem sorted_add {g : Grouped} (sorted : Sorted table spans g.groups) (span : Span) :
    Sorted table (spans ++ [span]) (add table g span).groups := by
  rw [add]
  split
  · rename_i assigned
    exact sorted.of_retains (decide_eq_true assigned)
  · rename_i key matched assigned
    exact sorted.of_sends (sends_of_assign assigned)

theorem sorted_ofSpans (table : RuleTable) (spans : List Span) : Sorted table spans (ofSpans table spans).groups := by
  induction spans using List.reverseRecOn with
  | nil => exact .nil table
  | append_singleton spans span ih =>
    rw [ofSpans, List.foldl_append]
    exact sorted_add ih span

theorem ofSpans_unmatched (table : RuleTable) (spans : List Span) :
    (ofSpans table spans).unmatched =
      (spans.filter fun s => (table.assign s.name).fallsBack).map Span.name := by
  induction spans using List.reverseRecOn with
  | nil => rfl
  | append_singleton spans span ih =>
    have step : (add table (ofSpans table spans) span).unmatched =
        (ofSpans table spans).unmatched ++
          if (table.assign span.name).fallsBack then [span.name] else [] := by
      rw [add]
      cases table.assign span.name with
      | retained => simp [Assignment.fallsBack]
      | domain key matched => cases matched <;> simp [Assignment.fallsBack]
    rw [ofSpans, List.foldl_append, List.foldl_cons, List.foldl_nil, ← ofSpans, step, ih, List.filter_append,
      List.map_append, List.filter_singleton]
    cases (table.assign span.name).fallsBack <;> rfl

end Grouped

/-- Grouping is a stable partition. No key has two groups, no group is empty, and the groups stand in the order in
which their keys appear first. Each group holds the declarations that the rules send to its key, the others are
retained, and those that only fell back are listed, always in source order. So every declaration ends up once, in a
group or retained. -/
theorem Engine.group_partition (e : Engine) (o : ScanOutcome) :
    ((e.group o).groups.map DomainGroup.key).Nodup ∧ (∀ g ∈ (e.group o).groups, g.spans ≠ []) ∧
      (e.group o).groups.Pairwise (fun g h =>
        o.declarations.findIdx (e.table.sends g.key) < o.declarations.findIdx (e.table.sends h.key)) ∧
      (∀ g ∈ (e.group o).groups, g.spans = o.declarations.filter (e.table.sends g.key)) ∧
      (e.group o).retained = o.declarations.filter (fun s => e.table.retains s.name) ∧
      (e.group o).unmatched =
        (o.declarations.filter fun s => (e.table.assign s.name).fallsBack).map Span.name ∧
      ((e.group o).groups.flatMap DomainGroup.spans ++ (e.group o).retained).Perm o.declarations := by
  have sorted := Grouped.sorted_ofSpans e.table o.declarations
  have retained := Grouped.ofSpans_retained e.table o.declarations
  refine ⟨sorted.distinct, fun g member => sorted.spans_ne_nil member, sorted.ordered, sorted.spans_eq, retained,
    Grouped.ofSpans_unmatched e.table o.declarations, ?_⟩
  have moved := Grouped.ofSpans_groups e.table o.declarations
  rw [group, retained]
  refine (moved.append_right _).trans (List.perm_append_comm.trans ?_)
  exact List.filter_append_perm (fun s => e.table.retains s.name) o.declarations

end Cleave
