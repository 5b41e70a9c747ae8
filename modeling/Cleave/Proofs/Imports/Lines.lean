import Cleave.Plan
import Cleave.Proofs.Imports.Catalog
import Cleave.Proofs.Text.ByteOrder

/-!
# Import lines

The import lines of a set stand in the order of the bytes of their modules, and so do the names within a module
(`Lists`). They depend on the imports alone, and not on how these were come by: sets with the same imports are equal,
and catalogs with the same entries give every group file the same imports (`imports_canonical`).
-/

namespace Cleave

/-! ## Names by module -/

namespace ImportSet

variable {s : ImportSet} {m : ModuleImports} {module name : Text} {kind : ImportKind}

/-- The names of one kind that are imported from a module. -/
def namesFrom (s : ImportSet) (module : Text) (kind : ImportKind) : List Text :=
  ((s.modules.find? fun m => m.module = module).map fun m => m.names kind).getD []

theorem Ordered.namesFrom_eq (ordered : s.Ordered) (member : m ∈ s.modules) (kind : ImportKind) :
    s.namesFrom m.module kind = m.names kind := by
  rw [namesFrom]
  cases found : s.modules.find? fun m' => m'.module = m.module with
  | none =>
    have absent := List.find?_eq_none.mp found m member
    simp at absent
  | some m' =>
    have same : m'.module = m.module := by simpa using List.find?_some found
    rw [ordered.eq_of_module (List.mem_of_find?_eq_some found) member same]
    rfl

theorem Ordered.mem_namesFrom (ordered : s.Ordered) : name ∈ s.namesFrom module kind ↔ ⟨module, name, kind⟩ ∈ s := by
  constructor
  · intro inside
    rw [namesFrom] at inside
    cases found : s.modules.find? fun m => m.module = module with
    | none => simp [found] at inside
    | some m =>
      have same : m.module = module := by simpa using List.find?_some found
      rw [found] at inside
      exact ⟨m, List.mem_of_find?_eq_some found, same, inside⟩
  · rintro ⟨m, member, rfl, inside⟩
    rwa [ordered.namesFrom_eq member]

theorem Ordered.namesFrom_ascending (ordered : s.Ordered) (module : Text) (kind : ImportKind) :
    (s.namesFrom module kind).Pairwise (· < ·) := by
  rw [namesFrom]
  cases found : s.modules.find? fun m => m.module = module with
  | none => exact .nil
  | some m => exact (ordered.each m (List.mem_of_find?_eq_some found)).ascending kind

theorem Ordered.exists_of_mem_modules (ordered : s.Ordered) (member : m ∈ s.modules) :
    ∃ i ∈ s, i.module = m.module := by
  obtain ⟨kind, filled⟩ := (ordered.each m member).filled
  obtain ⟨name, inside⟩ := List.exists_mem_of_ne_nil _ filled
  exact ⟨⟨m.module, name, kind⟩, ⟨m, member, rfl, inside⟩, rfl⟩

end ImportSet

/-- A plan takes from the catalog what it infers, and nothing else. -/
theorem Engine.plan_congr (e : Engine) {c c' : Catalog} (same : c.infer = c'.infer) (d : Document) (layout : Layout) :
    { e with catalog := c }.plan d layout = { e with catalog := c' }.plan d layout := by
  have groups : { e with catalog := c }.planGroup = { e with catalog := c' }.planGroup := by
    funext source g
    simp only [planGroup, same]
  rw [plan, plan, groups]
  rfl

/-- A catalog that lists a symbol twice. -/
def Catalog.repeated : Catalog :=
  { base := [⟨"b".toList, "m".toList, "b".toList, .named⟩, ⟨"a".toList, "m".toList, "a".toList, .named⟩,
      ⟨"b".toList, "m".toList, "b".toList, .named⟩] }

/-! ## Lines -/

namespace Renderer

/-- The line that imports a whole module under a name. -/
def aliasLine (r : Renderer) (module name : Text) : Text :=
  fillPlace "module" module (fillPlace "name" name r.imports.namespaced)

/-- The line that imports names from a module. -/
def namesLine (r : Renderer) (module : Text) (names : List Text) : Text :=
  fillPlace "module" module (fillPlace "names" (Text.join ", ".toList names) r.imports.named)

/-- Lines that list some imports: the modules ascend by their bytes, and each has a line for each of its aliases and
then at most one with all its names, where aliases and names ascend by their bytes. -/
structure Lists (r : Renderer) (is : List Import) (modules : List Text) (names : Text → ImportKind → List Text)
    (lines : List Text) : Prop where
  modules_ascend : modules.Pairwise fun m m' => Utf8.encode m < Utf8.encode m'
  mem_modules : ∀ m, m ∈ modules ↔ ∃ i ∈ is, i.module = m
  names_ascend : ∀ m k, (names m k).Pairwise fun a b => Utf8.encode a < Utf8.encode b
  mem_names : ∀ m n k, n ∈ names m k ↔ ⟨m, n, k⟩ ∈ is
  lines_eq : lines = modules.flatMap fun m =>
    (names m .wholeModule).map (r.aliasLine m) ++ if names m .named = [] then [] else [r.namesLine m (names m .named)]

/-- The lines of a set list its imports. -/
theorem lists_importLines (r : Renderer) (is : List Import) :
    r.Lists is ((ImportSet.ofList is).modules.map ModuleImports.module) (ImportSet.ofList is).namesFrom
      (r.importLines (.ofList is)) := by
  have ordered := ImportSet.ordered_ofList is
  constructor
  · rw [List.pairwise_map]
    exact ordered.ascending.imp Utf8.encode_lt_encode
  · intro module
    rw [List.mem_map]
    constructor
    · rintro ⟨m, member, rfl⟩
      simpa using ordered.exists_of_mem_modules member
    · rintro ⟨i, inside, rfl⟩
      obtain ⟨m, member, same, -⟩ := ImportSet.mem_ofList.mpr inside
      exact ⟨m, member, same⟩
  · intro module kind
    exact (ordered.namesFrom_ascending module kind).imp Utf8.encode_lt_encode
  · intro module name kind
    rw [ordered.mem_namesFrom, ImportSet.mem_ofList]
  · rw [importLines, List.flatMap_map]
    refine List.flatMap_congr fun m member => ?_
    rw [ordered.namesFrom_eq member, ordered.namesFrom_eq member]
    rfl

/-- Import sets are canonical. Imports that are added in another order or more than once give the same set and the
same lines; each of them counts once, a name is provided if it is among them, and the lines stand in order. So a
catalog whose entries are reordered or repeated infers the same imports, and the files of all groups stay the same. -/
theorem imports_canonical (r : Renderer) :
    (∀ is js : List Import, (∀ i, i ∈ is ↔ i ∈ js) →
      ImportSet.ofList is = .ofList js ∧ r.importLines (.ofList is) = r.importLines (.ofList js)) ∧
    (∀ is : List Import, (ImportSet.ofList is).size = is.dedup.length ∧
      (∀ name, (ImportSet.ofList is).contains name = true ↔ ∃ i ∈ is, i.name = name) ∧
      ∃ modules names, r.Lists is modules names (r.importLines (.ofList is))) ∧
    ∀ c c' : Catalog, c.SameEntries c' →
      (∀ body, c.infer body = c'.infer body ∧ r.importBlock (c.infer body) = r.importBlock (c'.infer body)) ∧
      ∀ (e : Engine) (d : Document) (layout : Layout),
        { e with catalog := c, renderer := r }.plan d layout =
          { e with catalog := c', renderer := r }.plan d layout := by
  refine ⟨fun is js same => ?_, fun is => ⟨ImportSet.size_ofList is, fun name => ?_, ?_⟩, fun c c' same => ⟨?_, ?_⟩⟩
  · have equal := ImportSet.ofList_congr same
    exact ⟨equal, by rw [equal]⟩
  · simp [ImportSet.contains_iff]
  · exact ⟨_, _, r.lists_importLines is⟩
  · intro body
    have equal := same.infer_eq body
    exact ⟨equal, by rw [equal]⟩
  · intro e d layout
    exact Engine.plan_congr { e with renderer := r } (funext same.infer_eq) d layout

theorem imports_canonical_sample :
    let is : List Import := [⟨"m".toList, "b".toList, .named⟩, ⟨"l".toList, "b".toList, .wholeModule⟩,
      ⟨"m".toList, "a".toList, .named⟩, ⟨"m".toList, "b".toList, .named⟩]
    let r : Renderer := {}
    r.importLines (.ofList is.reverse) = r.importLines (.ofList is) ∧
      r.importLines (.ofList is) =
        ["import * as b from \"l\";".toList, "import \x7b a, b \x7d from \"m\";".toList] ∧
      (ImportSet.ofList is).size = 3 ∧ (ImportSet.ofList is).contains "b".toList = true ∧
      Catalog.repeated.infer [] =
        { Catalog.repeated with base := Catalog.repeated.base.eraseDups.reverse }.infer [] := by
  intro is r
  obtain ⟨order, count, catalogs⟩ := imports_canonical r
  obtain ⟨size, provides, -⟩ := count is
  refine ⟨(order _ _ fun i => List.mem_reverse).2, by decide +kernel, size, (provides _).mpr ?_, ?_⟩
  · exact ⟨_, List.mem_cons_self, rfl⟩
  · refine ((catalogs _ _ ⟨fun s => ?_, fun _ => .rfl, fun _ => .rfl, rfl, rfl⟩).1 []).1
    simp [Catalog.repeated]

end Renderer

end Cleave
