import Cleave.Plan

/-!
# Groups of declarations

Every declaration either stays in the root or moves to a group, and its name alone decides which. No declaration
is lost on the way: the declarations that stay keep their order, and the groups together hold the others.
-/

namespace Cleave

/-- Whether the declaration of a name stays in the root. -/
def RuleTable.retains (table : RuleTable) (name : Text) : Bool :=
  decide (table.assign name = .retained)

namespace Grouped

theorem addTo_perm (key : DomainKey) (span : Span) (gs : List DomainGroup) :
    ((addTo key span gs).flatMap DomainGroup.spans).Perm (gs.flatMap DomainGroup.spans ++ [span]) := by
  induction gs with
  | nil => exact .refl _
  | cons g gs ih =>
    rw [addTo]
    split
    · simp only [List.flatMap_cons, List.append_assoc]
      exact List.perm_append_comm.append_left _
    · simp only [List.flatMap_cons, List.append_assoc]
      exact ih.append_left _

theorem add_of_retains {table : RuleTable} {span : Span} (g : Grouped) (stays : table.retains span.name = true) :
    add table g span = { g with retained := g.retained ++ [span] } := by
  have assigned : table.assign span.name = .retained := of_decide_eq_true stays
  rw [add, assigned]

theorem exists_add {table : RuleTable} {span : Span} (g : Grouped) (moves : table.retains span.name = false) :
    ∃ key, (add table g span).groups = addTo key span g.groups ∧ (add table g span).retained = g.retained := by
  have assigned : table.assign span.name ≠ .retained := of_decide_eq_false moves
  rw [add]
  cases place : table.assign span.name with
  | retained => exact absurd place assigned
  | domain key matched => exact ⟨key, rfl, rfl⟩

theorem retained_foldl (table : RuleTable) (g : Grouped) (spans : List Span) :
    (spans.foldl (add table) g).retained = g.retained ++ spans.filter fun s => table.retains s.name := by
  induction spans generalizing g with
  | nil => simp
  | cons span spans ih =>
    rw [List.foldl_cons, ih]
    cases stays : table.retains span.name with
    | true => simp [add_of_retains g stays, stays]
    | false =>
      obtain ⟨key, -, same⟩ := exists_add g stays
      simp [same, stays]

theorem groups_foldl (table : RuleTable) (g : Grouped) (spans : List Span) :
    ((spans.foldl (add table) g).groups.flatMap DomainGroup.spans).Perm
      (g.groups.flatMap DomainGroup.spans ++ spans.filter fun s => !table.retains s.name) := by
  induction spans generalizing g with
  | nil => simp
  | cons span spans ih =>
    rw [List.foldl_cons]
    refine (ih _).trans ?_
    cases stays : table.retains span.name with
    | true => simp [add_of_retains g stays, stays]
    | false =>
      obtain ⟨key, added, -⟩ := exists_add g stays
      rw [added, List.filter_cons_of_pos (by simp [stays]), List.append_cons]
      exact (addTo_perm key span g.groups).append_right _

theorem groups_foldl_of_retains {table : RuleTable} {spans : List Span} (g : Grouped)
    (stay : ∀ s ∈ spans, table.retains s.name = true) : (spans.foldl (add table) g).groups = g.groups := by
  induction spans generalizing g with
  | nil => rfl
  | cons span spans ih =>
    rw [List.foldl_cons, ih _ fun s member => stay s (by simp [member]), add_of_retains g (stay span (by simp))]

/-- The declarations that stay, in order. -/
theorem ofSpans_retained (table : RuleTable) (spans : List Span) :
    (ofSpans table spans).retained = spans.filter fun s => table.retains s.name :=
  retained_foldl table {} spans

/-- The groups hold every declaration that does not stay, and hold it once. -/
theorem ofSpans_groups (table : RuleTable) (spans : List Span) :
    ((ofSpans table spans).groups.flatMap DomainGroup.spans).Perm
      (spans.filter fun s => !table.retains s.name) :=
  groups_foldl table {} spans

theorem mem_ofSpans_groups {table : RuleTable} {spans : List Span} {s : Span} :
    s ∈ (ofSpans table spans).groups.flatMap DomainGroup.spans ↔ s ∈ spans ∧ table.retains s.name = false := by
  rw [(ofSpans_groups table spans).mem_iff, List.mem_filter, Bool.not_eq_true']

theorem ofSpans_groups_eq_nil {table : RuleTable} {spans : List Span}
    (stay : ∀ s ∈ spans, table.retains s.name = true) : (ofSpans table spans).groups = [] :=
  groups_foldl_of_retains {} stay

end Grouped

end Cleave
