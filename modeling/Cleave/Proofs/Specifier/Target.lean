import Cleave.Proofs.Run.Split
import Cleave.Proofs.Specifier.Bytes

/-!
# What specifiers point at

A specifier that is followed from its directory leads to its target without the extension
(`locationFrom_join_relative`). A run takes its specifiers from the directory of the source to the files that it writes,
both against the current directory, so each of them leads to the file of its group (`relative_points_at_target`). This
holds of paths of bytes as long as these are UTF-8 (`shown_names_collide`).
-/

namespace Cleave

open Effect

theorem Disk.walkParts_of_stay {d : Disk} {follow : Bool} {enter : Location → List Text → Except DiskError Location}
    {parts : List Text} (stay : ∀ part ∈ parts, isStay part = true) (dir : Location) :
    d.walkParts follow enter dir parts = .ok dir := by
  induction parts with
  | nil => rfl
  | cons part rest ih =>
    obtain ⟨first, later⟩ := List.forall_mem_cons.mp stay
    rw [walkParts, if_pos first, ih later]

/-- The root is no file. -/
theorem Disk.read_root {d : Disk} {cwd : Location} {p : Path} {b : Bytes} (stay : ∀ part ∈ p.parts, isStay part = true)
    (root : startOf cwd p = []) : d.read cwd p ≠ .ok b := by
  intro done
  have walked : d.walk true maxLinks (startOf cwd p) p.parts = .ok [] := by
    rw [maxLinks, walk, walkParts_of_stay stay, root]
  have found : ∃ n, d.stat cwd p = .ok n ∧ n ≠ .dir := by
    rcases read_eq_ok done with file | ⟨device, -⟩
    · exact ⟨_, file, by simp⟩
    · exact ⟨_, device, by simp⟩
  obtain ⟨n, held, other⟩ := found
  rw [stat, place] at held
  cases fault : pathFault? p with
  | some e => simp [fault] at held
  | none =>
    rw [Path.parts] at walked
    simp [fault, walked, get?] at held
    exact other held.symm

/-- The lines of the root that bring in the groups of a document. -/
def Engine.rootImports (e : Engine) (layout : Layout) (d : Document) : List RootImport :=
  (e.group (e.patterns.scan d)).groups.map (e.rootImport layout)

/-- The root brings in a group from where its file goes. -/
theorem Engine.module_rootImport (e : Engine) (layout : Layout) (source : Text) (g : DomainGroup) :
    (e.rootImport layout g).module =
      Specifier.relative layout.rootDir (Commit.target layout.outDir (e.planGroup source g).file) := by
  have path : (e.planGroup source g).file.path = e.renderer.fileName g.key := rfl
  rw [rootImport, Commit.target, path]

namespace Run

variable {e : Engine} {source outDir : Path} {w w' : World} {d : Document} {plan : Plan}

/-- What a run plans is the plan of the text that it reads. -/
theorem plan_eq_ok (run : (Run.plan e source outDir).run w = (.ok (d, plan), w')) :
    (∃ b, w.disk.read w.cwd source = .ok b) ∧ plan = e.plan d (layout w.cwd source outDir) := by
  obtain ⟨text, known, -, planned⟩ := plan_reads run
  obtain ⟨b, read, -⟩ := World.text?_eq_some_iff.mp known
  exact ⟨⟨b, read⟩, planned⟩

/-- A source that can be read lies in a directory. -/
theorem isAbsolute_rootDir (names : ∀ n ∈ w.cwd, Path.IsName n) {b : Bytes}
    (read : w.disk.read w.cwd source = .ok b) (outDir : Path) :
    (layout w.cwd source outDir).rootDir.isAbsolute = true := by
  have absolute := Path.isAbsolute_below w.cwd source
  rw [layout]
  cases found : (source.below w.cwd).parent? with
  | some dir => exact Path.isAbsolute_parent? absolute found
  | none =>
    -- Only the root has no parent, and the root cannot be read.
    have stay := Path.stay_of_parent?_eq_none absolute found
    obtain ⟨front, parts⟩ := Path.exists_parts_below w.cwd source
    have stay' : ∀ part ∈ source.parts, Disk.isStay part = true := fun part member =>
      stay part (parts ▸ List.mem_append_right front member)
    have root : Disk.startOf w.cwd source = [] := by
      rw [← Path.foldl_followPart_of_stay stay' (Disk.startOf w.cwd source), ← Path.locationFrom_eq,
        ← Path.locationFrom_below names [], Path.locationFrom_of_absolute absolute, Path.foldl_followPart_of_stay stay]
    exact absurd read (Disk.read_root stay' root)

theorem locationFrom_rootDir (names : ∀ n ∈ w.cwd, Path.IsName n) {t : Text} (named : source.fileName? = some t)
    (outDir : Path) :
    (layout w.cwd source outDir).rootDir.locationFrom w.cwd = (source.locationFrom w.cwd).dropLast := by
  obtain ⟨dir, found, place⟩ :=
    Path.locationFrom_parent? (Path.isAbsolute_below w.cwd source) (Path.fileName?_below named w.cwd) w.cwd
  rw [layout, found, Option.getD_some, place, Path.locationFrom_below names]

end Run

namespace Specifier

/-- A specifier leads from its directory to its target without the extension. -/
theorem locationFrom_join_relative {dir target : Path} (start : dir.isAbsolute = true)
    (absolute : target.isAbsolute = true) (cwd : Location) :
    (dir.join ⟨relative dir target⟩).locationFrom cwd = target.withoutExtension.locationFrom cwd :=
  locationFrom_join_spell start (Path.isAbsolute_withoutExtension absolute) cwd

/-- A specifier leads to its target, as text and as bytes of UTF-8. Those in the root of a plan lead from the directory
of the source to the files that a commit writes, with the output directory taken against the current directory. -/
theorem relative_points_at_target :
    (∀ (dir target : Path) (cwd : Location), dir.isAbsolute = true → target.isAbsolute = true →
      (dir.join ⟨relative dir target⟩).locationFrom cwd = target.withoutExtension.locationFrom cwd) ∧
    (∀ dir target : Text, relativeBytes (Utf8.encode dir) (Utf8.encode target) = relative ⟨dir⟩ ⟨target⟩) ∧
    (∀ (dir target : Bytes) (cwd : Location),
      Path.isAbsolute ⟨byteText dir⟩ = true → Path.isAbsolute ⟨byteText target⟩ = true →
      IsUtf8 ⟨byteText dir⟩ → IsUtf8 (Path.withoutExtension ⟨byteText target⟩) →
      (Path.join ⟨byteText dir⟩ ⟨byteText (Utf8.encode (relativeBytes dir target))⟩).locationFrom cwd =
        (Path.withoutExtension ⟨byteText target⟩).locationFrom cwd) ∧
    ∀ (e : Engine) (source outDir : Path) (w w' : World) (d : Document) (plan : Plan),
      (∀ n ∈ w.cwd, Path.IsName n) → (Run.plan e source outDir).run w = (.ok (d, plan), w') →
      let layout := Run.layout w.cwd source outDir
      (∀ t, source.fileName? = some t →
        layout.rootDir.locationFrom w.cwd = (source.locationFrom w.cwd).dropLast) ∧
      (plan.groups ≠ [] → ∃ parts, plan.root.content = e.renderer.root parts ∧
        parts.imports = e.rootImports layout d) ∧
      List.Forall₂ (fun line g =>
          let file := Commit.target (outDir.below w.cwd) g.file
          file.locationFrom w.cwd = (Commit.target outDir g.file).locationFrom w.cwd ∧
            (layout.rootDir.join ⟨line.module⟩).locationFrom w.cwd = file.withoutExtension.locationFrom w.cwd)
        (e.rootImports layout d) plan.groups := by
  refine ⟨fun dir target cwd start absolute => locationFrom_join_relative start absolute cwd, relativeBytes_encode,
    fun dir target cwd start absolute source module =>
      locationFrom_join_relativeBytes start absolute source module cwd, ?_⟩
  intro e source outDir w w' d plan names run layout
  obtain ⟨⟨b, read⟩, rfl⟩ := Run.plan_eq_ok run
  refine ⟨?_, ?_, ?_⟩
  · intro t named
    exact Run.locationFrom_rootDir names named outDir
  · intro extracts
    exact ⟨_, if_neg (Engine.groups_ne_nil_iff.mp extracts), rfl⟩
  · have groups : (e.plan d layout).groups = (e.group (e.patterns.scan d)).groups.map (e.planGroup d.fileName) := rfl
    rw [groups, Engine.rootImports, List.forall₂_map_left_iff, List.forall₂_map_right_iff, List.forall₂_same]
    intro g _
    dsimp only
    refine ⟨?_, ?_⟩
    · rw [Commit.target, Commit.target, Path.locationFrom_join, Path.locationFrom_join, Path.locationFrom_below names]
    · rw [e.module_rootImport layout d.fileName g]
      exact locationFrom_join_relative (Run.isAbsolute_rootDir names read outDir)
        (Path.isAbsolute_join (Path.isAbsolute_below w.cwd outDir) _) w.cwd

/-- Names that are no UTF-8 are shown alike, so a specifier between them leads elsewhere: from `/p/\xFE` it takes
`/p/\xFF/task.ts` to lie in the same directory, and from `/p` it spells the replacement character. -/
theorem shown_names_collide :
    let dir : Bytes := Utf8.encode "/p/".toList ++ [0xFE]
    let target : Bytes := Utf8.encode "/p/".toList ++ [0xFF] ++ Utf8.encode "/task.ts".toList
    let leads (start : Bytes) : Location :=
      (Path.join ⟨byteText start⟩ ⟨byteText (Utf8.encode (relativeBytes start target))⟩).locationFrom []
    relativeBytes dir target = "./task".toList ∧
      relativeBytes (Utf8.encode "/p".toList) target = "./\uFFFD/task".toList ∧
      (Path.withoutExtension ⟨byteText target⟩).locationFrom [] = ["p".toList, byteText [0xFF], "task".toList] ∧
      leads dir = ["p".toList, byteText [0xFE], "task".toList] ∧
      leads (Utf8.encode "/p".toList) = ["p".toList, byteText [0xEF, 0xBF, 0xBD], "task".toList] := by
  decide +kernel

/-- A disk with the sample text in the current directory. -/
def servedWorld : World where
  disk := { nodes := [(["srv".toList], .dir), (["srv".toList, "db.ts".toList], .file (Utf8.encode .sample))] }
  cwd := ["srv".toList]

/-- A directory and a target that climb above the root, names of several bytes, and a run that writes beside the current
directory. -/
theorem relative_points_at_target_sample :
    relative ⟨"/../a/./b".toList⟩ ⟨"//c/../../d.e.ts".toList⟩ = "../../d.e".toList ∧
    (Path.join ⟨"/../a/./b".toList⟩ ⟨"../../d.e".toList⟩).locationFrom [] = ["d.e".toList] ∧
    relativeBytes (Utf8.encode "/é".toList) (Utf8.encode "/ü/d.ts".toList) = "../ü/d".toList ∧
    (Path.join ⟨stored "/é".toList⟩ ⟨stored "../ü/d".toList⟩).locationFrom [] = [stored "ü".toList, "d".toList] ∧
    ∃ d plan w' line g, (Run.plan .sample ⟨"db.ts".toList⟩ ⟨"../gen".toList⟩).run servedWorld = (.ok (d, plan), w') ∧
      Engine.rootImports .sample (Run.layout servedWorld.cwd ⟨"db.ts".toList⟩ ⟨"../gen".toList⟩) d = [line] ∧
      plan.groups = [g] ∧ line.module = "../gen/misc".toList ∧
      (Commit.target ⟨"../gen".toList⟩ g.file).locationFrom servedWorld.cwd = ["gen".toList, "misc.ts".toList] ∧
      (Path.join ⟨"/srv".toList⟩ ⟨line.module⟩).locationFrom servedWorld.cwd = ["gen".toList, "misc".toList] := by
  obtain ⟨anywhere, encoded, ofBytes, planned⟩ := relative_points_at_target
  have text : relative ⟨"/../a/./b".toList⟩ ⟨"//c/../../d.e.ts".toList⟩ = "../../d.e".toList := by decide +kernel
  have place := anywhere ⟨"/../a/./b".toList⟩ ⟨"//c/../../d.e.ts".toList⟩ [] rfl rfl
  rw [text] at place
  have shown : relative ⟨"/é".toList⟩ ⟨"/ü/d.ts".toList⟩ = "../ü/d".toList := by decide +kernel
  have bytes := (encoded "/é".toList "/ü/d.ts".toList).trans shown
  have leads := ofBytes (Utf8.encode "/é".toList) (Utf8.encode "/ü/d.ts".toList) [] (by decide +kernel)
    (by decide +kernel) ⟨_, rfl⟩ ⟨_, congrArg Path.text (Path.withoutExtension_stored _)⟩
  rw [bytes] at leads
  refine ⟨text, place.trans (by decide +kernel), bytes, leads.trans (by decide +kernel), ?_⟩
  have known : ((Run.plan .sample ⟨"db.ts".toList⟩ ⟨"../gen".toList⟩).run servedWorld).1.map (fun r =>
      (Engine.rootImports .sample (Run.layout servedWorld.cwd ⟨"db.ts".toList⟩ ⟨"../gen".toList⟩) r.1,
        r.2.groups.map (·.file.path))) = .ok ([⟨["a".toList], "../gen/misc".toList⟩], [⟨"misc.ts".toList⟩]) := by
    decide +kernel
  obtain ⟨⟨d, plan⟩, done, result⟩ := map_eq_ok known
  obtain ⟨lines, files⟩ := Prod.mk.inj result
  obtain ⟨g, groups, file⟩ := List.map_eq_singleton_iff.mp files
  have names : ∀ n ∈ servedWorld.cwd, Path.IsName n := by
    intro n member
    obtain rfl := List.mem_singleton.mp member
    exact ⟨by decide, by decide, by decide⟩
  obtain ⟨-, -, each⟩ := planned .sample _ _ servedWorld _ d plan names (run_of_fst done)
  rw [lines, groups] at each
  obtain ⟨⟨written, points⟩, -⟩ := List.forall₂_cons.mp each
  have root : (Run.layout servedWorld.cwd ⟨"db.ts".toList⟩ ⟨"../gen".toList⟩).rootDir = ⟨"/srv".toList⟩ := by
    decide +kernel
  rw [Commit.target, file] at written points
  rw [root] at points
  exact ⟨d, plan, _, _, g, run_of_fst done, lines, groups, rfl, written.symm.trans (by decide +kernel),
    points.trans (by decide +kernel)⟩

end Specifier

end Cleave
