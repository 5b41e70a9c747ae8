import Cleave.Proofs.Commit.Stages
import Cleave.Proofs.Plan.Files

/-!
# Files beside each other

Under rules every group has a file of its own in the output directory. Keys that are read differ in print, so their
files have different names (`Renderer.eq_of_fileName`), and names that differ denote different locations below any
directory (`Commit.Siblings.nodup_locations`). So the check before a commit never finds two groups at one place: all
that can be in the way of a group is the source or its backup (`Profile.rule_files_apart`).
-/

namespace Cleave

/-! ## Siblings -/

namespace Commit

variable {files : List GeneratedFile} {f : GeneratedFile}

/-- Files whose paths are names, all of them different. -/
structure Siblings (files : List GeneratedFile) : Prop where
  isName : ∀ f ∈ files, Path.IsName f.path.text
  distinct : (files.map fun f => f.path.text).Nodup

namespace Siblings

/-- Siblings differ in all that gives their names away. -/
theorem nodup_map {β : Type} {trait : GeneratedFile → β} (siblings : Siblings files)
    (tells : ∀ f ∈ files, ∀ g ∈ files, trait f = trait g → f.path.text = g.path.text) : (files.map trait).Nodup := by
  have distinct := siblings.distinct
  rw [List.nodup_iff_pairwise_ne, List.pairwise_map] at distinct ⊢
  exact distinct.imp_of_mem fun {f g} first second apart same => apart (tells f first g second same)

theorem nodup_components (siblings : Siblings files) : (files.map fun f => f.path.components).Nodup := by
  refine siblings.nodup_map fun f first g second same => ?_
  have single := Path.components_eq_singleton_iff.mpr (siblings.isName f first)
  have single' := Path.components_eq_singleton_iff.mpr (siblings.isName g second)
  simpa [single, single'] using same

theorem nodup_locations (siblings : Siblings files) (cwd : Location) (outDir : Path) :
    (files.map fun f => (target outDir f).locationFrom cwd).Nodup := by
  refine siblings.nodup_map fun f first g second same => ?_
  have below := Path.locationFrom_join_of_isName (siblings.isName f first) cwd outDir
  have below' := Path.locationFrom_join_of_isName (siblings.isName g second) cwd outDir
  simpa [target, below, below'] using same

theorem target_ne_nil (siblings : Siblings files) (outDir : Path) (member : f ∈ files) :
    (target outDir f).text ≠ [] := by
  have filled : f.path.text ≠ [] := by
    intro empty
    have name := (siblings.isName f member).name
    simp [empty, Disk.isStay] at name
  rw [target, Path.join]
  split
  · exact filled
  · split <;> simp [filled]

theorem resolve_target (siblings : Siblings files) (cwd : Location) (outDir : Path) (member : f ∈ files) :
    resolve cwd (target outDir f) = .ok ((target outDir f).locationFrom cwd) := by
  simp [resolve, Path.resolve?, siblings.target_ne_nil outDir member]

/-- The check refuses siblings only because of the source or its backup. -/
theorem checkDistinct_eq_error (siblings : Siblings files) {cwd : Location} {source outDir : Path} {e : WriteError}
    (failed : checkDistinct cwd source outDir files = .error e) :
    (source.text = [] ∧ e = .resolve source .emptyPath) ∨ ∃ f ∈ files,
      ((target outDir f).locationFrom cwd = source.locationFrom cwd ∧ e = .collision (target outDir f) source) ∨
      ((target outDir f).locationFrom cwd = (backupPath source).locationFrom cwd ∧
        e = .collision (target outDir f) (backupPath source)) := by
  refine (Commit.checkDistinct_eq_error failed).imp_right ?_
  rintro ⟨before, f, after, rfl, refused⟩
  have member : f ∈ before ++ f :: after := by simp
  refine ⟨f, member, ?_⟩
  cases refused with
  | unresolved empty => exact absurd empty (siblings.target_ne_nil outDir member)
  | atSource same => exact .inl ⟨same, rfl⟩
  | atBackup same => exact .inr ⟨same, rfl⟩
  | again old =>
    have nodup := siblings.nodup_locations cwd outDir
    rw [List.map_append, List.map_cons, List.nodup_append] at nodup
    exact absurd rfl (nodup.2.2 _ old _ List.mem_cons_self)

end Siblings

end Commit

/-! ## Files of rules -/

namespace Renderer

variable {r : Renderer} {key other : DomainKey}

theorem isName_fileName (read : key.IsRead) (free : '/' ∉ r.extension) : Path.IsName (r.fileName key).text := by
  have plain := read.isPlain
  exact (isName_fileName_iff plain.filled free).mpr ⟨plain.free, fun bare => plain.dot bare.1⟩

theorem eq_of_fileName (read : key.IsRead) (read' : other.IsRead)
    (same : (r.fileName key).text = (r.fileName other).text) : key = other :=
  read.eq_of_text read' (List.append_cancel_right same)

end Renderer

/-- Rules put no declarations together under a key that is not read. -/
theorem Engine.isRead_of_mem_groups {e : Engine} {o : ScanOutcome} {key : DomainKey}
    (read : ∀ rule ∈ e.table.rules, rule.key.IsRead) (rules : e.table.grouping = .rules)
    (member : key ∈ (e.group o).groups.map DomainGroup.key) : key.IsRead := by
  have sorted := Grouped.sorted_ofSpans e.table o.declarations
  obtain ⟨span, -, sent⟩ := (sorted.complete key).mp member
  exact RuleTable.isRead_of_assign read rules (of_decide_eq_true sent)

namespace Profile

variable {p : Profile} {name : Text} {e : Engine}

theorem siblings_files (compiled : p.compile name = .ok e) (rules : p.classify.grouping = .rules)
    (free : '/' ∉ p.extension.toList) (d : Document) (layout : Layout) :
    Commit.Siblings (e.plan d layout).files := by
  obtain ⟨read, grouping, extension⟩ := compile_eq_ok compiled
  have free' : '/' ∉ e.renderer.extension := by
    rw [extension]
    exact fun slash => free (List.dropWhile_subset _ slash)
  have keys : (e.plan d layout).files.map (fun f => f.path.text) =
      ((e.group (e.patterns.scan d)).groups.map DomainGroup.key).map fun key => (e.renderer.fileName key).text := by
    simp [Engine.plan, Plan.files, Engine.planGroup, Renderer.group, Function.comp_def]
  have isRead {key : DomainKey} (member : key ∈ (e.group (e.patterns.scan d)).groups.map DomainGroup.key) :
      key.IsRead :=
    Engine.isRead_of_mem_groups read (grouping.trans rules) member
  constructor
  · intro f member
    have listed : f.path.text ∈ (e.plan d layout).files.map fun f => f.path.text := List.mem_map_of_mem member
    rw [keys] at listed
    obtain ⟨key, inside, named⟩ := List.mem_map.mp listed
    rw [← named]
    exact Renderer.isName_fileName (isRead inside) free'
  · rw [keys]
    have distinct := (Grouped.sorted_ofSpans e.table (e.patterns.scan d).declarations).distinct
    exact distinct.map_on fun key inside other inside' same =>
      Renderer.eq_of_fileName (isRead inside) (isRead inside') same

/-- Under rules no two groups claim one file. Whatever the document, the files of the groups have different paths, and
they denote different locations below every output directory. So the check before a commit only fails if the source is
the empty path, or if the file of a group would overwrite the source or its backup. -/
theorem rule_files_apart (compiled : p.compile name = .ok e) (rules : p.classify.grouping = .rules)
    (free : '/' ∉ p.extension.toList) (d : Document) (layout : Layout) :
    ((e.plan d layout).files.map fun f => f.path.components).Nodup ∧
    ∀ (cwd : Location) (source outDir : Path),
      (∃ places : List Location, places.Nodup ∧
        (e.plan d layout).files.map (fun f => Commit.resolve cwd (Commit.target outDir f)) = places.map .ok) ∧
      ∀ err, Commit.checkDistinct cwd source outDir (e.plan d layout).files = .error err →
        (source.text = [] ∧ err = .resolve source .emptyPath) ∨ ∃ f ∈ (e.plan d layout).files,
          ((Commit.target outDir f).locationFrom cwd = source.locationFrom cwd ∧
            err = .collision (Commit.target outDir f) source) ∨
          ((Commit.target outDir f).locationFrom cwd = (Commit.backupPath source).locationFrom cwd ∧
            err = .collision (Commit.target outDir f) (Commit.backupPath source)) := by
  have siblings := siblings_files compiled rules free d layout
  refine ⟨siblings.nodup_components, fun cwd source outDir => ⟨?_, fun err failed => ?_⟩⟩
  · refine ⟨_, siblings.nodup_locations cwd outDir, ?_⟩
    rw [List.map_map]
    exact List.map_congr_left fun f member => siblings.resolve_target cwd outDir member
  · exact siblings.checkDistinct_eq_error failed

/-- Functions with a rule for tasks and one that names the reserved key. -/
def domains : Profile :=
  { scan := { introducer := "^fn (\\S+)" }
    classify := { rules := [⟨"task", "(?-i)Task"⟩, ⟨" Misc ", "(?-i)log"⟩] } }

/-- A function for each of the rules, and one that falls back to the reserved key. -/
def tasks : Document :=
  .ofText ⟨[]⟩ "fn Task \x7b\x7d\nfn log \x7b\x7d\nfn other \x7b\x7d\n".toList

theorem rule_files_apart_sample :
    ∃ e, domains.compile [] = .ok e ∧ domains.classify.grouping = .rules ∧ '/' ∉ domains.extension.toList ∧
      (e.plan tasks nested).files.map GeneratedFile.path = [⟨"task.ts".toList⟩, ⟨"misc.ts".toList⟩] ∧
      ((e.plan tasks nested).files.map fun f => f.path.components).Nodup ∧
      Commit.checkDistinct [] ⟨"db.ts".toList⟩ ⟨"out".toList⟩ (e.plan tasks nested).files = .ok () := by
  have planned : ((domains.compile []).toOption.map fun e => (e.plan tasks nested).files.map GeneratedFile.path) =
      some [⟨"task.ts".toList⟩, ⟨"misc.ts".toList⟩] := by
    decide +kernel
  cases compiled : domains.compile [] with
  | error e => simp [compiled, Except.toOption] at planned
  | ok e =>
    rw [compiled] at planned
    have paths : (e.plan tasks nested).files.map GeneratedFile.path = [⟨"task.ts".toList⟩, ⟨"misc.ts".toList⟩] :=
      Option.some.inj planned
    obtain ⟨apart, checks⟩ := rule_files_apart compiled rfl (by decide) tasks nested
    refine ⟨e, rfl, rfl, by decide, paths, apart, ?_⟩
    cases result : Commit.checkDistinct [] ⟨"db.ts".toList⟩ ⟨"out".toList⟩ (e.plan tasks nested).files with
    | ok _ => rfl
    | error err =>
      have refused := (checks [] ⟨"db.ts".toList⟩ ⟨"out".toList⟩).2 err result
      have clear : ∀ path ∈ (e.plan tasks nested).files.map GeneratedFile.path,
          ((⟨"out".toList⟩ : Path).join path).locationFrom [] ≠ (⟨"db.ts".toList⟩ : Path).locationFrom [] ∧
          ((⟨"out".toList⟩ : Path).join path).locationFrom [] ≠
            (Commit.backupPath ⟨"db.ts".toList⟩).locationFrom [] := by
        rw [paths]
        decide +kernel
      obtain ⟨empty, -⟩ | ⟨f, member, either⟩ := refused
      · cases empty
      · have away := clear _ (List.mem_map_of_mem member)
        exact either.elim (fun same => absurd same.1 away.1) fun same => absurd same.1 away.2

end Profile

end Cleave
