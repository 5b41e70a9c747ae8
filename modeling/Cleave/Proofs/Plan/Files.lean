import Mathlib.Data.List.TakeWhile
import Cleave.Profile.Compile
import Cleave.Proofs.Commit.Targets
import Cleave.Proofs.Domain.Key
import Cleave.Proofs.Path.Parts
import Cleave.Proofs.Plan.Partition

/-!
# Files of groups

The file of a group is named for its key. A key that is read from a rule holds letters, digits, `_` and `-` only, so
its file lies in the output directory itself. The key of a declaration that forms its own group is whatever the
introducer captures, and a name that holds a slash leads out of the output directory (`file_inside_iff`).
-/

namespace Cleave

open Commit

theorem mapError_eq_ok {ε ε' α : Type} {f : ε → ε'} {x : Except ε α} {a : α} (done : x.mapError f = .ok a) :
    x = .ok a := by
  cases x with
  | error e => cases done
  | ok b =>
    cases done
    rfl

/-! ## Keys -/

namespace DomainKey

/-- A key that can stand in a file name as it is. -/
structure IsPlain (key : DomainKey) : Prop where
  filled : key.text ≠ []
  free : '/' ∉ key.text
  dot : key.text ≠ ['.']

/-- A key that is read is plain. -/
theorem IsRead.isPlain {key : DomainKey} (read : key.IsRead) : key.IsPlain := by
  cases read with
  | misc => exact ⟨by decide, by decide, by decide⟩
  | @named n filled chars =>
    refine ⟨filled, fun slash => absurd (chars _ slash) (by decide), fun dot => ?_⟩
    obtain rfl : n = ['.'] := dot
    exact absurd (chars '.' (by simp)) (by decide)

end DomainKey

theorem Text.lowerFirst_ne_nil (c : Char) (r : Text) : lowerFirst (c :: r) ≠ [] := by
  have listed : ∀ s ∈ Case.lowerSequences, s.2 ≠ [] := by decide +kernel
  have filled : Case.lower c ≠ [] := by
    rw [Case.lower]
    split
    · simp
    · rw [Case.fullImage]
      split
      · rename_i ns found
        obtain ⟨before, after, cut, -⟩ := List.lookup_eq_some_iff.mp found
        simpa using listed (c.toNat, ns) (by simp [cut])
      · simp
  simp [lowerFirst, filled]

/-- The key of a declaration holds what its name in lower case holds, unless the name is empty. -/
theorem DomainKey.text_ofDeclaration (name : Text) :
    (ofDeclaration name).text ≠ [] ∧ ('/' ∈ (ofDeclaration name).text ↔ '/' ∈ Text.lowerFirst name) ∧
      ((ofDeclaration name).text = ['.'] ↔ Text.lowerFirst name = ['.']) := by
  cases name with
  | nil => exact ⟨by decide, by decide, by decide⟩
  | cons c r => exact ⟨Text.lowerFirst_ne_nil c r, .rfl, .rfl⟩

namespace RuleTable

variable {table : RuleTable} {key : DomainKey} {name : Text}

theorem isRead_of_compileRulesWith {read : Pattern.Reader} {pairs : List (Text × Text)} {rules : List DomainRule}
    (compiled : compileRulesWith read pairs = .ok rules) : ∀ rule ∈ rules, rule.key.IsRead := by
  rw [compileRulesWith] at compiled
  induction pairs generalizing rules with
  | nil =>
    cases compiled
    simp
  | cons pair pairs ih =>
    rw [List.mapM_cons] at compiled
    obtain ⟨rule, first, compiled⟩ := bind_eq_ok compiled
    obtain ⟨rest, later, compiled⟩ := bind_eq_ok compiled
    cases compiled
    refine List.forall_mem_cons.mpr ⟨?_, ih later⟩
    simp only [DomainRule.compile] at first
    split at first
    · cases first
    · rename_i key parsed
      split at first
      · cases first
      · cases first
        exact DomainKey.isRead_of_parse parsed

/-- Rules send declarations to keys that are read. -/
theorem isRead_of_assign (read : ∀ rule ∈ table.rules, rule.key.IsRead) (rules : table.grouping = .rules)
    (sent : (table.assign name).key? = some key) : key.IsRead := by
  rw [assign, rules] at sent
  split at sent
  · cases sent
  · dsimp only at sent
    split at sent
    · rename_i found
      cases sent
      rw [find?, Option.map_eq_some_iff] at found
      obtain ⟨rule, found, rfl⟩ := found
      exact read rule (List.mem_of_find?_eq_some found)
    · split at sent
      · cases sent
        exact .misc
      · cases sent

theorem isPlain_of_assign (read : ∀ rule ∈ table.rules, rule.key.IsRead) (rules : table.grouping = .rules)
    (sent : (table.assign name).key? = some key) : key.IsPlain :=
  (isRead_of_assign read rules sent).isPlain

theorem key_of_assign (own : table.grouping = .declaration) (sent : (table.assign name).key? = some key) :
    key = .ofDeclaration name := by
  rw [assign, own] at sent
  split at sent
  · cases sent
  · exact (Option.some.inj sent).symm

end RuleTable

/-- A group of a plan has declarations, which the rules send to its key. -/
theorem Engine.sent_of_mem_groups {e : Engine} {d : Document} {layout : Layout} {g : GroupPlan}
    (member : g ∈ (e.plan d layout).groups) :
    g.declarations ≠ [] ∧ ∀ n ∈ g.declarations, (e.table.assign n).key? = some g.key := by
  obtain ⟨group, inside, rfl⟩ := List.mem_map.mp member
  have sorted := Grouped.sorted_ofSpans e.table (e.patterns.scan d).declarations
  refine ⟨by simpa [planGroup, DomainGroup.names] using sorted.spans_ne_nil inside, fun n listed => ?_⟩
  obtain ⟨span, among, rfl⟩ := List.mem_map.mp listed
  rw [sorted.spans_eq group inside] at among
  exact of_decide_eq_true (List.mem_filter.mp among).2

/-! ## File names -/

/-- When the file name of a key is one name. -/
theorem Renderer.isName_fileName_iff {r : Renderer} {key : DomainKey} (filled : key.text ≠ [])
    (free : '/' ∉ r.extension) :
    Path.IsName (r.fileName key).text ↔ '/' ∉ key.text ∧ ¬(key.text = ['.'] ∧ r.extension = []) := by
  have text : (r.fileName key).text = key.text ++ '.' :: r.extension := rfl
  rw [text]
  cases shape : key.text with
  | nil => exact absurd shape filled
  | cons c t =>
    constructor
    · intro named
      refine ⟨fun slash => named.free (List.mem_append_left _ slash), fun ⟨dot, bare⟩ => named.down ?_⟩
      rw [dot, bare]
      rfl
    · rintro ⟨slash, proper⟩
      refine ⟨by simp [Disk.isStay], fun up => proper ?_, by simpa [free] using slash⟩
      simpa [List.append_eq_singleton_iff, and_assoc] using up

namespace Profile

variable {p : Profile} {name : Text} {e : Engine}

/-- What a profile that is accepted says about the table and the extension. -/
theorem compile_eq_ok (compiled : p.compile name = .ok e) :
    (∀ rule ∈ e.table.rules, rule.key.IsRead) ∧ e.table.grouping = p.classify.grouping ∧
      e.renderer.extension = Text.trimStartOf (· == '.') p.extension.toList := by
  have built := mapError_eq_ok compiled
  obtain ⟨patterns, -, built⟩ := bind_eq_ok built
  obtain ⟨table, classified, built⟩ := bind_eq_ok built
  obtain ⟨catalog, -, built⟩ := bind_eq_ok built
  obtain ⟨renderer, rendered, built⟩ := bind_eq_ok built
  cases built
  obtain ⟨rules, read, classified⟩ := bind_eq_ok classified
  cases classified
  refine ⟨RuleTable.isRead_of_compileRulesWith (mapError_eq_ok read), rfl, ?_⟩
  rw [RenderSettings.compile] at rendered
  split at rendered
  · cases rendered
  · obtain ⟨substitution, -, rendered⟩ := bind_eq_ok rendered
    cases rendered
    rfl

/-- The file of a group is a single name, and lies in the output directory itself, unless declarations form their own
groups and the name of this one holds a slash, or is a dot without an extension after it. -/
theorem file_inside_iff (compiled : p.compile name = .ok e) (free : '/' ∉ p.extension.toList) (d : Document)
    (layout : Layout) {g : GroupPlan} (member : g ∈ (e.plan d layout).groups) :
    (g.file.path.components = [.name g.file.path.text] ↔
      p.classify.grouping = .rules ∨ ∀ n ∈ g.declarations, '/' ∉ Text.lowerFirst n ∧
        ¬(Text.lowerFirst n = ['.'] ∧ ∀ c ∈ p.extension.toList, c = '.')) ∧
    (g.file.path.components = [.name g.file.path.text] → ∀ (cwd : Location) (outDir : Path),
      (Commit.target outDir g.file).locationFrom cwd = outDir.locationFrom cwd ++ [g.file.path.text]) := by
  obtain ⟨plain, grouping, extension⟩ := compile_eq_ok compiled
  obtain ⟨filled, sent⟩ := Engine.sent_of_mem_groups member
  obtain ⟨n, ns, cut⟩ := List.exists_cons_of_ne_nil filled
  have listed : n ∈ g.declarations := by simp [cut]
  have path : g.file.path = e.renderer.fileName g.key := by
    obtain ⟨group, -, rfl⟩ := List.mem_map.mp member
    rfl
  have free' : '/' ∉ e.renderer.extension := by
    rw [extension]
    exact fun slash => free (List.dropWhile_subset _ slash)
  have bare : e.renderer.extension = [] ↔ ∀ c ∈ p.extension.toList, c = '.' := by
    rw [extension, Text.trimStartOf, List.dropWhile_eq_nil_iff]
    simp
  rw [Path.components_eq_singleton_iff]
  refine ⟨?_, fun named cwd outDir => Path.locationFrom_join_of_isName named cwd outDir⟩
  rw [path]
  cases mode : p.classify.grouping with
  | rules =>
    have key := RuleTable.isPlain_of_assign plain (grouping.trans mode) (sent n listed)
    refine iff_of_true ?_ (.inl rfl)
    exact (Renderer.isName_fileName_iff key.filled free').mpr ⟨key.free, fun single => key.dot single.1⟩
  | declaration =>
    -- All declarations of a group have the same key, so each of them decides for the file.
    have each : ∀ m ∈ g.declarations, (Path.IsName (e.renderer.fileName g.key).text ↔
        '/' ∉ Text.lowerFirst m ∧ ¬(Text.lowerFirst m = ['.'] ∧ ∀ c ∈ p.extension.toList, c = '.')) := by
      intro m among
      obtain ⟨filled, slash, dot⟩ := DomainKey.text_ofDeclaration m
      rw [RuleTable.key_of_assign (grouping.trans mode) (sent m among), Renderer.isName_fileName_iff filled free',
        slash, dot, bare]
    refine ⟨fun named => .inr fun m among => (each m among).mp named, fun all => (each n listed).mpr ?_⟩
    exact all.resolve_left (by simp) n listed

/-- Functions that form their own groups. -/
def functions : Profile :=
  { scan := { introducer := "^fn (\\S+)" }, classify := { grouping := .declaration } }

/-- The source is in a directory, and its files go to a directory below. -/
def nested : Layout :=
  { rootDir := ⟨"/work".toList⟩, outDir := ⟨"/work/out".toList⟩ }

theorem exists_group_of_functions (text : Text) (q : Path) (names : List Text)
    (planned : ((functions.compile []).toOption.map fun e =>
      (e.plan (.ofText ⟨[]⟩ text) nested).groups.map fun g => (g.file.path, g.declarations)) = some [(q, names)]) :
    ∃ e g, functions.compile [] = .ok e ∧ (e.plan (.ofText ⟨[]⟩ text) nested).groups = [g] ∧ g.file.path = q ∧
      g.declarations = names := by
  cases compiled : functions.compile [] with
  | error e => simp [compiled, Except.toOption] at planned
  | ok e =>
    rw [compiled] at planned
    obtain ⟨g, groups, found⟩ := List.map_eq_singleton_iff.mp (Option.some.inj planned)
    exact ⟨e, g, rfl, groups, congrArg Prod.fst found, congrArg Prod.snd found⟩

theorem file_inside_iff_sample :
    ∃ e g, functions.compile [] = .ok e ∧
      (e.plan (.ofText ⟨[]⟩ "fn Task \x7b\x7d\n".toList) nested).groups = [g] ∧
      g.file.path.components = [.name "task.ts".toList] ∧
      (Commit.target nested.outDir g.file).locationFrom [] = ["work".toList, "out".toList, "task.ts".toList] := by
  obtain ⟨e, g, compiled, groups, path, names⟩ :=
    exists_group_of_functions "fn Task \x7b\x7d\n".toList ⟨"task.ts".toList⟩ ["Task".toList] (by decide +kernel)
  have member : g ∈ (e.plan (.ofText ⟨[]⟩ "fn Task \x7b\x7d\n".toList) nested).groups := by
    rw [groups]
    exact List.mem_singleton_self g
  obtain ⟨single, place⟩ := file_inside_iff compiled (by decide) _ nested member
  have inside := single.mpr (.inr (by rw [names]; decide +kernel))
  have child := place inside [] nested.outDir
  rw [path] at inside child
  exact ⟨e, g, compiled, groups, path ▸ inside, child⟩

/-- A name that climbs out of the output directory takes the file of its group along. -/
theorem file_escapes :
    ∃ e g, functions.compile [] = .ok e ∧
      (e.plan (.ofText ⟨[]⟩ "fn ../escape \x7b\x7d\n".toList) nested).groups = [g] ∧
      g.file.path.components = [.up, .name "escape.ts".toList] ∧
      (Commit.target nested.outDir g.file).locationFrom [] = ["work".toList, "escape.ts".toList] := by
  obtain ⟨e, g, compiled, groups, path, -⟩ := exists_group_of_functions "fn ../escape \x7b\x7d\n".toList
    ⟨"../escape.ts".toList⟩ ["../escape".toList] (by decide +kernel)
  refine ⟨e, g, compiled, groups, ?_, ?_⟩
  · rw [path]
    decide +kernel
  · rw [Commit.target, path]
    decide +kernel

end Profile

end Cleave
