import Cleave.Imports.Catalog
import Cleave.Proofs.Imports.Canonical
import Cleave.Proofs.Scan.Block

/-!
# Inferred imports

What a text imports is the set of what its catalog calls for: base symbols, optional symbols whose marker occurs, and
captured entities that have a module (`infer_eq_ofList`). Nothing is missing from it and nothing else is in it
(`mem_infer_iff`), so the order and the repetition of the entries of a catalog make no difference.
-/

namespace Cleave

/-- The import of a symbol. -/
def Symbol.toImport (s : Symbol) : Import :=
  ⟨s.module, s.name, s.kind⟩

namespace EntityCatalog

variable {entities : EntityCatalog} {text name module : Text}

/-- The import of an entity, if it has a module. -/
def import? (entities : EntityCatalog) (entity : Text) : Option Import :=
  (entities.moduleOf? entity).map (⟨·, entity, .named⟩)

theorem mem_foldl_insertName {names found : List Text} :
    name ∈ found.foldl (fun names name => insertName name names) names ↔ name ∈ found ∨ name ∈ names := by
  induction found generalizing names with
  | nil => simp
  | cons n ns ih =>
    rw [List.foldl_cons, ih, mem_insertName, List.mem_cons, or_assoc, or_left_comm]

/-- The entities of a text are those that a pattern captures. -/
theorem mem_scan :
    name ∈ entities.scan text ↔ ∃ p ∈ entities.patterns, ∃ m ∈ p.findAll text, m.group? text 1 = some name := by
  rw [scan, mem_foldl_insertName, or_iff_left List.not_mem_nil, captured]
  simp only [List.mem_flatMap, List.mem_filterMap]

/-- The module of an entity is its own entry, and only without one the default. -/
theorem moduleOf?_eq_some :
    entities.moduleOf? name = some module ↔ entities.modules.lookup name = some module ∨
      entities.modules.lookup name = none ∧ entities.defaultModule = some module := by
  rw [moduleOf?, Option.or_eq_some_iff]

end EntityCatalog

namespace Catalog

variable {c c' : Catalog} {body : Text}

/-- What a text calls for, in the order in which it is added. -/
def needs (c : Catalog) (body : Text) : List Import :=
  c.base.map Symbol.toImport ++ (c.optional.filter fun s => Text.occursIn s.marker body).map Symbol.toImport ++
    (c.entities.scan body).filterMap c.entities.import?

theorem foldl_addSymbol (s : ImportSet) (symbols : List Symbol) :
    symbols.foldl addSymbol s = s.insertAll (symbols.map Symbol.toImport) := by
  rw [ImportSet.insertAll, List.foldl_map]
  rfl

theorem foldl_addEntity (entities : EntityCatalog) (s : ImportSet) (found : List Text) :
    found.foldl (addEntity entities) s = s.insertAll (found.filterMap entities.import?) := by
  rw [ImportSet.insertAll, List.foldl_filterMap]
  congr 1
  funext s entity
  rw [addEntity, EntityCatalog.import?]
  cases entities.moduleOf? entity <;> rfl

/-- The imports of a text are the set of what it calls for. -/
theorem infer_eq_ofList (c : Catalog) (body : Text) : c.infer body = .ofList (c.needs body) := by
  rw [infer, foldl_addSymbol, foldl_addSymbol, foldl_addEntity, needs, ImportSet.ofList]
  simp only [ImportSet.insertAll, List.foldl_append]

theorem mem_needs {i : Import} :
    i ∈ c.needs body ↔ (∃ s ∈ c.base, s.toImport = i) ∨
      (∃ s ∈ c.optional, s.marker <:+: body ∧ s.toImport = i) ∨
      ∃ entity ∈ c.entities.scan body, c.entities.import? entity = some i := by
  simp only [needs, List.mem_append, List.mem_map, List.mem_filter, List.mem_filterMap, Scan.occursIn_iff, or_assoc,
    and_assoc]

/-- A text imports a name from a module if and only if this is a base symbol, or an optional symbol whose marker
occurs in the text, or an entity that a pattern captures in the text, from the module of its own entry or else from
the default module. -/
theorem mem_infer_iff (c : Catalog) (body module name : Text) (kind : ImportKind) :
    ⟨module, name, kind⟩ ∈ c.infer body ↔
      (∃ s ∈ c.base, s.name = name ∧ s.module = module ∧ s.kind = kind) ∨
      (∃ s ∈ c.optional, s.name = name ∧ s.module = module ∧ s.kind = kind ∧ s.marker <:+: body) ∨
      kind = .named ∧
        (∃ p ∈ c.entities.patterns, ∃ m ∈ p.findAll body, m.group? body 1 = some name) ∧
        (c.entities.modules.lookup name = some module ∨
          c.entities.modules.lookup name = none ∧ c.entities.defaultModule = some module) := by
  rw [infer_eq_ofList, ImportSet.mem_ofList, mem_needs, ← EntityCatalog.mem_scan, ← EntityCatalog.moduleOf?_eq_some]
  refine or_congr ?_ (or_congr ?_ ?_)
  · simp only [Symbol.toImport, Import.mk.injEq, and_left_comm]
  · refine exists_congr fun s => and_congr_right fun _ => ?_
    rw [Symbol.toImport, Import.mk.injEq]
    tauto
  · simp only [EntityCatalog.import?, Option.map_eq_some_iff, Import.mk.injEq]
    constructor
    · rintro ⟨entity, found, _, place, rfl, rfl, rfl⟩
      exact ⟨rfl, found, place⟩
    · rintro ⟨rfl, found, place⟩
      exact ⟨name, found, module, place, rfl, rfl, rfl⟩

/-- Two catalogs with the same entries: symbols and entity patterns may be in another order and may be repeated. -/
structure SameEntries (c c' : Catalog) : Prop where
  base : ∀ s, s ∈ c.base ↔ s ∈ c'.base
  optional : ∀ s, s ∈ c.optional ↔ s ∈ c'.optional
  patterns : ∀ p, p ∈ c.entities.patterns ↔ p ∈ c'.entities.patterns
  defaultModule : c.entities.defaultModule = c'.entities.defaultModule
  modules : c.entities.modules = c'.entities.modules

/-- Catalogs with the same entries infer the same imports. -/
theorem SameEntries.infer_eq (same : c.SameEntries c') (body : Text) : c.infer body = c'.infer body := by
  have scanned (entity : Text) : entity ∈ c.entities.scan body ↔ entity ∈ c'.entities.scan body := by
    simp only [EntityCatalog.mem_scan, same.patterns]
  have place : c.entities.import? = c'.entities.import? := by
    funext entity
    rw [EntityCatalog.import?, EntityCatalog.import?, EntityCatalog.moduleOf?, EntityCatalog.moduleOf?, same.modules,
      same.defaultModule]
  rw [infer_eq_ofList, infer_eq_ofList]
  refine ImportSet.ofList_congr fun i => ?_
  simp only [mem_needs, same.base, same.optional, scanned, place]

end Catalog

end Cleave
