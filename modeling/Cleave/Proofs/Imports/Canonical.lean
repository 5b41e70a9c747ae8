import Mathlib.Data.List.Dedup
import Mathlib.Data.List.Sort
import Cleave.Imports.Set

/-!
# Import sets are canonical

Adding an import keeps the modules of a set and the names of each module ascending (`Ordered`), and adds nothing but
this import. A set that is ordered is determined by its imports (`Ordered.ext`), so the order in which imports are
added makes no difference, and no import counts twice.
-/

namespace Cleave

/-- One import: a name, the module it comes from, and how it is brought into scope. -/
structure Import where
  module : Text
  name : Text
  kind : ImportKind
  deriving DecidableEq, Repr

/-! ## Names -/

section Names

variable {name x : Text} {names : List Text}

@[simp]
theorem mem_insertName : x ∈ insertName name names ↔ x = name ∨ x ∈ names := by
  induction names with
  | nil => simp [insertName]
  | cons n ns ih =>
    rw [insertName]
    split
    · simp
    · split
      · rename_i same
        simp [same]
      · simp [ih, or_left_comm]

theorem lt_of_not_lt {s t : Text} (above : ¬ s < t) (other : s ≠ t) : t < s :=
  ((Std.lt_trichotomy s t).resolve_left above).resolve_left other

theorem insertName_ascending (ascending : names.Pairwise (· < ·)) : (insertName name names).Pairwise (· < ·) := by
  induction names with
  | nil => simp [insertName]
  | cons n ns ih =>
    obtain ⟨first, rest⟩ := List.pairwise_cons.mp ascending
    rw [insertName]
    split
    · rename_i below
      refine ascending.cons fun x member => ?_
      rcases List.mem_cons.mp member with rfl | later
      · exact below
      · exact List.lt_trans below (first x later)
    · rename_i above
      split
      · exact ascending
      · rename_i other
        refine (ih rest).cons fun x member => ?_
        rcases mem_insertName.mp member with rfl | old
        · exact lt_of_not_lt above other
        · exact first x old

end Names

/-! ## Modules -/

namespace ModuleImports

variable {m : ModuleImports} {name x : Text} {kind k : ImportKind} {i : Import}

/-- The names of one kind. -/
def names (m : ModuleImports) : ImportKind → List Text
  | .named => m.named
  | .wholeModule => m.namespaces

@[simp]
theorem insert_module (m : ModuleImports) (name : Text) (kind : ImportKind) :
    (m.insert name kind).module = m.module := by
  cases kind <;> rfl

theorem names_insert (m : ModuleImports) (name : Text) (kind k : ImportKind) :
    (m.insert name kind).names k = if k = kind then insertName name (m.names k) else m.names k := by
  cases kind <;> cases k <;> rfl

theorem mem_names_insert : x ∈ (m.insert name kind).names k ↔ x = name ∧ k = kind ∨ x ∈ m.names k := by
  rw [names_insert]
  split
  · rename_i same
    simp [same]
  · rename_i other
    simp [other]

theorem names_empty (module : Text) (k : ImportKind) : names { module } k = [] := by
  cases k <;> rfl

theorem ext_names {m' : ModuleImports} (module : m.module = m'.module) (same : ∀ k, m.names k = m'.names k) :
    m = m' := by
  obtain ⟨module, named, namespaces⟩ := m
  cases module
  cases same .named
  cases same .wholeModule
  rfl

/-- Names of either kind ascend, and there is one. -/
structure Ordered (m : ModuleImports) : Prop where
  ascending : ∀ k, (m.names k).Pairwise (· < ·)
  filled : ∃ k, m.names k ≠ []

theorem ordered_insert (ascending : ∀ k, (m.names k).Pairwise (· < ·)) (name : Text) (kind : ImportKind) :
    (m.insert name kind).Ordered where
  ascending k := by
    rw [names_insert]
    split
    · exact insertName_ascending (ascending k)
    · exact ascending k
  filled := ⟨kind, List.ne_nil_of_mem (mem_names_insert.mpr (.inl ⟨rfl, rfl⟩))⟩

/-- The imports from a module, one by one. -/
def toList (m : ModuleImports) : List Import :=
  m.named.map (⟨m.module, ·, .named⟩) ++ m.namespaces.map (⟨m.module, ·, .wholeModule⟩)

theorem mem_toList : i ∈ m.toList ↔ m.module = i.module ∧ i.name ∈ m.names i.kind := by
  obtain ⟨module, name, kind⟩ := i
  cases kind <;> simp [toList, names, and_comm]

theorem nodup_toList (ascending : ∀ k, (m.names k).Pairwise (· < ·)) : m.toList.Nodup := by
  have nodup (k : ImportKind) : ((m.names k).map (Import.mk m.module · k)).Nodup :=
    List.Nodup.map (fun a b same => (Import.mk.inj same).2.1) (ascending k).nodup
  exact List.nodup_append.mpr ⟨nodup .named, nodup .wholeModule, by simp⟩

/-- A module to which an import is added has its old imports and this one. -/
theorem mem_toList_insert {j : Import} (here : i.module = m.module) :
    j ∈ (m.insert i.name i.kind).toList ↔ j = i ∨ j ∈ m.toList := by
  obtain ⟨module, name, kind⟩ := i
  obtain ⟨module', name', kind'⟩ := j
  cases here
  rw [mem_toList, mem_toList, insert_module, mem_names_insert, Import.mk.injEq, and_or_left, eq_comm]

end ModuleImports

namespace ImportSet

variable {s t : ImportSet} {i j : Import} {ms : List ModuleImports}

/-! ## Membership -/

instance : Membership Import ImportSet :=
  ⟨fun s i => ∃ m ∈ s.modules, m.module = i.module ∧ i.name ∈ m.names i.kind⟩

/-- The imports of a set, one by one. -/
def toList (s : ImportSet) : List Import :=
  s.modules.flatMap ModuleImports.toList

theorem mem_toList : i ∈ s.toList ↔ i ∈ s := by
  rw [toList, List.mem_flatMap]
  exact exists_congr fun m => and_congr_right fun _ => ModuleImports.mem_toList

theorem notMem_empty : i ∉ ({} : ImportSet) := by
  rw [← mem_toList]
  exact List.not_mem_nil

/-- Adding an import adds this import and nothing else. -/
theorem mem_insert : j ∈ s.insert i.module i.name i.kind ↔ j = i ∨ j ∈ s := by
  rw [← mem_toList, ← mem_toList, insert, toList, toList]
  have fresh : j ∈ (ModuleImports.insert { module := i.module } i.name i.kind).toList ↔ j = i :=
    (ModuleImports.mem_toList_insert rfl).trans (or_iff_left List.not_mem_nil)
  induction s.modules with
  | nil => simp [insertInto, fresh]
  | cons m ms ih =>
    rw [insertInto]
    split
    · simp [fresh]
    · split
      · rename_i here
        simp [ModuleImports.mem_toList_insert here, or_assoc]
      · simp only [List.flatMap_cons, List.mem_append, ih, or_left_comm]

/-! ## Order -/

/-- Modules ascend, and so do the names of each. -/
structure Ordered (s : ImportSet) : Prop where
  ascending : s.modules.Pairwise fun m m' => m.module < m'.module
  each : ∀ m ∈ s.modules, m.Ordered

theorem ordered_empty : Ordered {} :=
  ⟨.nil, by simp⟩

theorem module_of_mem_insertInto {module name : Text} {kind : ImportKind} {m : ModuleImports}
    (member : m ∈ insertInto module name kind ms) : m.module = module ∨ ∃ m' ∈ ms, m'.module = m.module := by
  induction ms with
  | nil =>
    obtain rfl := List.mem_singleton.mp member
    exact .inl (ModuleImports.insert_module _ _ _)
  | cons n ns ih =>
    rw [insertInto] at member
    split at member
    · rcases List.mem_cons.mp member with rfl | old
      · exact .inl (ModuleImports.insert_module _ _ _)
      · exact .inr ⟨m, old, rfl⟩
    · split at member
      · rename_i here
        rcases List.mem_cons.mp member with rfl | old
        · exact .inl ((ModuleImports.insert_module _ _ _).trans here.symm)
        · exact .inr ⟨m, List.mem_cons_of_mem _ old, rfl⟩
      · rcases List.mem_cons.mp member with rfl | later
        · exact .inr ⟨m, List.mem_cons_self, rfl⟩
        · refine (ih later).imp_right fun ⟨m', old, same⟩ => ?_
          exact ⟨m', List.mem_cons_of_mem _ old, same⟩

/-- Adding an import keeps the order. -/
theorem Ordered.insert (ordered : s.Ordered) (module name : Text) (kind : ImportKind) :
    (s.insert module name kind).Ordered := by
  obtain ⟨ms⟩ := s
  obtain ⟨ascending, each⟩ := ordered
  show Ordered ⟨insertInto module name kind ms⟩
  have fresh : (ModuleImports.insert { module } name kind).Ordered := by
    refine ModuleImports.ordered_insert (fun k => ?_) name kind
    rw [ModuleImports.names_empty]
    exact .nil
  induction ms with
  | nil => exact ⟨List.pairwise_singleton _ _, by simpa [insertInto] using fresh⟩
  | cons m ms ih =>
    obtain ⟨first, rest⟩ := List.pairwise_cons.mp ascending
    obtain ⟨here, later⟩ := List.forall_mem_cons.mp each
    rw [insertInto]
    split
    · rename_i below
      refine ⟨ascending.cons fun m' member => ?_, List.forall_mem_cons.mpr ⟨fresh, each⟩⟩
      rw [ModuleImports.insert_module]
      rcases List.mem_cons.mp member with rfl | old
      · exact below
      · exact List.lt_trans below (first m' old)
    · rename_i above
      split
      · refine ⟨rest.cons fun m' member => ?_, List.forall_mem_cons.mpr ⟨?_, later⟩⟩
        · rw [ModuleImports.insert_module]
          exact first m' member
        · exact ModuleImports.ordered_insert here.ascending name kind
      · rename_i other
        obtain ⟨ascending', each'⟩ := ih rest later
        refine ⟨ascending'.cons fun m' member => ?_, List.forall_mem_cons.mpr ⟨here, each'⟩⟩
        rcases module_of_mem_insertInto member with same | ⟨m'', old, same⟩
        · rw [same]
          exact lt_of_not_lt above other
        · rw [← same]
          exact first m'' old

namespace Ordered

variable {m m' : ModuleImports}

theorem nodup (ordered : s.Ordered) : (s.modules.map ModuleImports.module).Nodup :=
  (List.pairwise_map.mpr ordered.ascending).nodup

theorem eq_of_module (ordered : s.Ordered) (member : m ∈ s.modules) (member' : m' ∈ s.modules)
    (same : m.module = m'.module) : m = m' :=
  List.inj_on_of_nodup_map ordered.nodup member member' same

/-- The names of a module are the imports from it. -/
theorem mem_names_iff (ordered : s.Ordered) (member : m ∈ s.modules) {name : Text} {kind : ImportKind} :
    name ∈ m.names kind ↔ ⟨m.module, name, kind⟩ ∈ s := by
  refine ⟨fun inside => ⟨m, member, rfl, inside⟩, fun ⟨m', member', same, inside⟩ => ?_⟩
  rwa [ordered.eq_of_module member member' same.symm]

theorem mem_of_same (ordered : s.Ordered) (ordered' : t.Ordered) (same : ∀ i, i ∈ s ↔ i ∈ t)
    (member : m ∈ s.modules) : m ∈ t.modules := by
  obtain ⟨kind, filled⟩ := (ordered.each m member).filled
  obtain ⟨name, inside⟩ := List.exists_mem_of_ne_nil _ filled
  obtain ⟨m', member', module, -⟩ := (same _).mp ((ordered.mem_names_iff member).mp inside)
  have equal : m' = m := by
    refine ModuleImports.ext_names module fun k => ?_
    refine ((ordered'.each m' member').ascending k).eq_of_mem_iff ((ordered.each m member).ascending k) fun x => ?_
    rw [ordered'.mem_names_iff member', module, ← same, ordered.mem_names_iff member]
  exact equal ▸ member'

/-- A set that is ordered is determined by its imports. -/
theorem ext (ordered : s.Ordered) (ordered' : t.Ordered) (same : ∀ i, i ∈ s ↔ i ∈ t) : s = t := by
  have both (m : ModuleImports) : m ∈ s.modules ↔ m ∈ t.modules :=
    ⟨ordered.mem_of_same ordered' same, ordered'.mem_of_same ordered fun i => (same i).symm⟩
  have perm := (List.perm_ext_iff_of_nodup ordered.nodup.of_map ordered'.nodup.of_map).mpr both
  have modules := perm.eq_of_pairwise (fun m m' _ _ below above => absurd above (List.lt_asymm below))
    ordered.ascending ordered'.ascending
  exact congrArg ImportSet.mk modules

theorem nodup_toList (ordered : s.Ordered) : s.toList.Nodup := by
  rw [toList, List.nodup_flatMap]
  refine ⟨fun m member => ModuleImports.nodup_toList (ordered.each m member).ascending, ?_⟩
  refine ordered.ascending.imp fun {m m'} below i left right => ?_
  rw [(ModuleImports.mem_toList.mp left).1, (ModuleImports.mem_toList.mp right).1] at below
  exact List.lt_irrefl _ below

end Ordered

/-! ## Adding imports one by one -/

/-- Adds imports one after the other. -/
def insertAll (s : ImportSet) (is : List Import) : ImportSet :=
  is.foldl (fun s i => s.insert i.module i.name i.kind) s

theorem mem_insertAll {is : List Import} : j ∈ s.insertAll is ↔ j ∈ is ∨ j ∈ s := by
  induction is generalizing s with
  | nil => simp [insertAll]
  | cons i is ih =>
    rw [insertAll, List.foldl_cons, ← insertAll, ih, List.mem_cons, or_assoc, or_left_comm]
    exact or_congr_right mem_insert

theorem Ordered.insertAll (ordered : s.Ordered) (is : List Import) : (s.insertAll is).Ordered := by
  induction is generalizing s with
  | nil => exact ordered
  | cons i is ih => exact ih (ordered.insert i.module i.name i.kind)

/-- The set of some imports. -/
def ofList (is : List Import) : ImportSet :=
  insertAll {} is

@[simp]
theorem mem_ofList {is : List Import} : j ∈ ofList is ↔ j ∈ is := by
  rw [ofList, mem_insertAll, or_iff_left notMem_empty]

theorem ordered_ofList (is : List Import) : (ofList is).Ordered :=
  ordered_empty.insertAll is

/-- Neither the order in which imports are added nor their repetition makes a difference. -/
theorem ofList_congr {is js : List Import} (same : ∀ i, i ∈ is ↔ i ∈ js) : ofList is = ofList js := by
  refine (ordered_ofList is).ext (ordered_ofList js) fun i => ?_
  rw [mem_ofList, mem_ofList, same]

/-! ## Questions -/

theorem length_toList (s : ImportSet) : s.toList.length = s.size := by
  rw [toList, size]
  induction s.modules with
  | nil => rfl
  | cons m ms ih => simp [ih, ModuleImports.toList, Nat.add_assoc]

theorem size_ofList (is : List Import) : (ofList is).size = is.dedup.length := by
  rw [← length_toList]
  refine ((List.perm_ext_iff_of_nodup (ordered_ofList is).nodup_toList is.nodup_dedup).mpr fun i => ?_).length_eq
  rw [mem_toList, mem_ofList, List.mem_dedup]

theorem contains_iff {name : Text} : s.contains name = true ↔ ∃ i ∈ s, i.name = name := by
  rw [contains, List.any_eq_true]
  constructor
  · rintro ⟨m, member, found⟩
    rcases Bool.or_eq_true_iff.mp found with named | aliased
    · exact ⟨⟨m.module, name, .named⟩, ⟨m, member, rfl, List.contains_iff_mem.mp named⟩, rfl⟩
    · exact ⟨⟨m.module, name, .wholeModule⟩, ⟨m, member, rfl, List.contains_iff_mem.mp aliased⟩, rfl⟩
  · rintro ⟨⟨module, name, kind⟩, ⟨m, member, -, inside⟩, rfl⟩
    refine ⟨m, member, ?_⟩
    cases kind with
    | named => simp [show name ∈ m.named from inside]
    | wholeModule => simp [show name ∈ m.namespaces from inside]

end ImportSet

end Cleave
