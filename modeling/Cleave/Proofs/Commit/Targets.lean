import Mathlib.Control.Monad.Basic
import Cleave.Commit
import Cleave.Proofs.Disk.Effect

/-!
# The paths of a commit

A commit replaces the source and the targets, and each of them through a temporary path beside it. The check before a
commit keeps source, backup and targets apart. It does not look at the temporary paths: these are apart from each
other and from the backup anyway, but one of them may be the source or a target. All paths that a commit writes to
are distinct exactly when that is not so (`writtenPaths_distinct_iff`).
-/

namespace Cleave.Commit

variable {cwd : Location} {source outDir p q : Path} {files : List GeneratedFile}

/-- The paths that a commit replaces. -/
def places (source outDir : Path) (files : List GeneratedFile) : List Path :=
  source :: files.map (target outDir)

/-- The paths that a commit writes to. -/
def writtenPaths (source outDir : Path) (files : List GeneratedFile) : List Path :=
  places source outDir files ++ backupPath source :: (places source outDir files).map tempPath

/-- No temporary path is the source or a target. -/
def TempsApart (cwd : Location) (source outDir : Path) (files : List GeneratedFile) : Prop :=
  ∀ p ∈ places source outDir files, ∀ q ∈ places source outDir files, (tempPath p).resolve? cwd ≠ q.resolve? cwd

instance (cwd : Location) (source outDir : Path) (files : List GeneratedFile) :
    Decidable (TempsApart cwd source outDir files) :=
  inferInstanceAs (Decidable (∀ p ∈ _, ∀ q ∈ _, _))

/-! ## Endings -/

theorem ending_backup : Path.Ending ".backup" := ⟨by decide, by decide⟩

theorem ending_temp : Path.Ending ".tmp" := ⟨by decide, by decide⟩

theorem backup_ne_temp (cwd : Location) (p q : Path) :
    (backupPath p).locationFrom cwd ≠ (tempPath q).locationFrom cwd :=
  Path.locationFrom_append_ne ending_backup ending_temp (by decide) (by decide) cwd p q

/-- Temporary paths that meet belong to the same place. -/
theorem locationFrom_of_temp (same : (tempPath p).locationFrom cwd = (tempPath q).locationFrom cwd) :
    p.locationFrom cwd = q.locationFrom cwd :=
  Path.locationFrom_of_append ending_temp same

/-! ## What the check says -/

/-- Source and targets denote locations that are distinct and none of which is the backup. -/
structure Distinct (cwd : Location) (source outDir : Path) (files : List GeneratedFile) : Prop where
  named : ∀ p ∈ places source outDir files, p.text ≠ []
  nodup : ((places source outDir files).map (Path.locationFrom cwd)).Nodup
  backup : ∀ p ∈ places source outDir files, p.locationFrom cwd ≠ (backupPath source).locationFrom cwd

theorem bind_eq_ok {ε α β : Type} {x : Except ε α} {f : α → Except ε β} {b : β} (done : x >>= f = .ok b) :
    ∃ a, x = .ok a ∧ f a = .ok b := by
  cases x with
  | error e => cases done
  | ok a => exact ⟨a, rfl, done⟩

theorem resolve_eq_ok {l : Location} (found : resolve cwd p = .ok l) : p.text ≠ [] ∧ l = p.locationFrom cwd := by
  simp only [resolve, Path.resolve?] at found
  split at found
  · rename_i l' given
    split at given
    · cases given
    · rename_i filled
      cases given
      cases found
      exact ⟨filled, rfl⟩
  · cases found

theorem checkFrom_eq_ok {sourceAt backupAt : Location} {seen : List Location}
    (accepted : checkFrom cwd source outDir sourceAt backupAt seen files = .ok ()) :
    (∀ f ∈ files, (target outDir f).text ≠ [] ∧ (target outDir f).locationFrom cwd ≠ sourceAt ∧
        (target outDir f).locationFrom cwd ≠ backupAt ∧ (target outDir f).locationFrom cwd ∉ seen) ∧
      (files.map fun f => (target outDir f).locationFrom cwd).Nodup := by
  induction files generalizing seen with
  | nil => exact ⟨by simp, .nil⟩
  | cons f fs ih =>
    obtain ⟨place, found, accepted⟩ := bind_eq_ok accepted
    obtain ⟨filled, rfl⟩ := resolve_eq_ok found
    split at accepted
    · cases accepted
    · rename_i source
      split at accepted
      · cases accepted
      · rename_i backup
        split at accepted
        · cases accepted
        · rename_i fresh
          obtain ⟨each, nodup⟩ := ih accepted
          refine ⟨List.forall_mem_cons.mpr ⟨⟨filled, source, backup, fresh⟩, fun g member => ?_⟩, ?_⟩
          · obtain ⟨filled, source, backup, later⟩ := each g member
            exact ⟨filled, source, backup, fun old => later (List.mem_append_left _ old)⟩
          · refine List.nodup_cons.mpr ⟨fun member => ?_, nodup⟩
            obtain ⟨g, inside, same⟩ := List.mem_map.mp member
            exact (each g inside).2.2.2 (by simp [same])

theorem distinct_of_checkDistinct (accepted : checkDistinct cwd source outDir files = .ok ()) :
    Distinct cwd source outDir files := by
  obtain ⟨sourceAt, found, accepted⟩ := bind_eq_ok accepted
  obtain ⟨filled, rfl⟩ := resolve_eq_ok found
  obtain ⟨backupAt, found, accepted⟩ := bind_eq_ok accepted
  obtain ⟨-, rfl⟩ := resolve_eq_ok found
  obtain ⟨each, nodup⟩ := checkFrom_eq_ok accepted
  have apart := Path.locationFrom_append_ne_self ending_backup cwd source
  constructor
  · exact List.forall_mem_cons.mpr ⟨filled, List.forall_mem_map.mpr fun f member => (each f member).1⟩
  · rw [places, List.map_cons, List.map_map]
    refine List.nodup_cons.mpr ⟨fun member => ?_, nodup⟩
    obtain ⟨f, inside, same⟩ := List.mem_map.mp member
    exact (each f inside).2.1 same
  · exact List.forall_mem_cons.mpr ⟨apart.symm, List.forall_mem_map.mpr fun f member => (each f member).2.2.1⟩

/-! ## Distinct paths -/

theorem Distinct.resolve? (distinct : Distinct cwd source outDir files) (member : p ∈ places source outDir files) :
    p.resolve? cwd = some (p.locationFrom cwd) :=
  if_neg (distinct.named p member)

theorem Distinct.map_resolve? (distinct : Distinct cwd source outDir files) :
    (writtenPaths source outDir files).map (Path.resolve? cwd) =
      ((writtenPaths source outDir files).map (Path.locationFrom cwd)).map some := by
  rw [List.map_map]
  refine List.map_congr_left fun p member => ?_
  rcases List.mem_append.mp member with place | rest
  · exact distinct.resolve? place
  · rcases List.mem_cons.mp rest with rfl | temp
    · exact Path.resolve?_append ending_backup cwd source
    · obtain ⟨q, -, rfl⟩ := List.mem_map.mp temp
      exact Path.resolve?_append ending_temp cwd q

theorem tempsApart_iff (distinct : Distinct cwd source outDir files) :
    TempsApart cwd source outDir files ↔
      ∀ p ∈ places source outDir files, ∀ q ∈ places source outDir files,
        (tempPath p).locationFrom cwd ≠ q.locationFrom cwd := by
  refine forall₂_congr fun p _ => forall₂_congr fun q member => ?_
  rw [distinct.resolve? member, tempPath, Path.resolve?_append ending_temp, ne_eq, Option.some.injEq]

theorem tempsApart_of_nodup (nodup : ((places source outDir files ++ (places source outDir files).map tempPath).map
    (Path.resolve? cwd)).Nodup) : TempsApart cwd source outDir files := by
  rw [List.map_append, List.nodup_append] at nodup
  intro p member q member' same
  exact nodup.2.2 _ (List.mem_map_of_mem member') _ (List.mem_map_of_mem (List.mem_map_of_mem member)) same.symm

/-- Temporary paths of distinct places are distinct. -/
theorem Distinct.nodup_temps (distinct : Distinct cwd source outDir files) :
    (((places source outDir files).map tempPath).map (Path.locationFrom cwd)).Nodup := by
  have nodup := distinct.nodup
  rw [List.nodup_iff_pairwise_ne, List.pairwise_map] at nodup
  rw [List.nodup_iff_pairwise_ne, List.pairwise_map, List.pairwise_map]
  exact nodup.imp fun apart same => apart (locationFrom_of_temp same)

/-- The places and their temporary paths are distinct exactly if no temporary path is a place. -/
theorem Distinct.nodup_iff (distinct : Distinct cwd source outDir files) :
    ((places source outDir files ++ (places source outDir files).map tempPath).map (Path.locationFrom cwd)).Nodup ↔
      TempsApart cwd source outDir files := by
  rw [tempsApart_iff distinct, List.map_append, List.nodup_append]
  constructor
  · rintro ⟨-, -, disjoint⟩ p member q member' same
    exact disjoint _ (List.mem_map_of_mem member') _ (List.mem_map_of_mem (List.mem_map_of_mem member)) same.symm
  · intro apart
    refine ⟨distinct.nodup, distinct.nodup_temps, fun l place m temp same => ?_⟩
    obtain ⟨q, member, rfl⟩ := List.mem_map.mp place
    obtain ⟨t, inside, rfl⟩ := List.mem_map.mp temp
    obtain ⟨p, member', rfl⟩ := List.mem_map.mp inside
    exact apart p member' q member same.symm

theorem Distinct.backup_notMem (distinct : Distinct cwd source outDir files) :
    (backupPath source).locationFrom cwd ∉
      (places source outDir files ++ (places source outDir files).map tempPath).map (Path.locationFrom cwd) := by
  rw [List.map_append, List.map_map, List.mem_append, List.mem_map, List.mem_map]
  rintro (⟨p, member, same⟩ | ⟨p, -, same⟩)
  · exact distinct.backup p member same
  · exact backup_ne_temp cwd source p same.symm

/-- After a check that succeeds, the paths that a commit writes to are distinct exactly if no temporary path is the
source or a target. -/
theorem writtenPaths_distinct_iff (accepted : checkDistinct cwd source outDir files = .ok ()) :
    ((writtenPaths source outDir files).map (Path.resolve? cwd)).Nodup ↔ TempsApart cwd source outDir files := by
  have distinct := distinct_of_checkDistinct accepted
  have some_nodup (ls : List Location) : (ls.map some).Nodup ↔ ls.Nodup := by
    simp [List.nodup_iff_pairwise_ne, List.pairwise_map]
  rw [distinct.map_resolve?, some_nodup, ← distinct.nodup_iff, writtenPaths, (List.perm_middle.map _).nodup_iff,
    List.map_cons, List.nodup_cons, and_iff_right distinct.backup_notMem]

/-- Two generated files. -/
def sampleFiles : List GeneratedFile :=
  [⟨⟨"task.ts".toList⟩, "one".toList⟩, ⟨⟨"defect.ts".toList⟩, "two".toList⟩]

theorem writtenPaths_distinct_iff_sample :
    checkDistinct [] ⟨"db.ts".toList⟩ ⟨"out".toList⟩ sampleFiles = .ok () ∧
      ((writtenPaths ⟨"db.ts".toList⟩ ⟨"out".toList⟩ sampleFiles).map (Path.resolve? [])).Nodup :=
  ⟨rfl, (writtenPaths_distinct_iff rfl).mpr (by decide +kernel)⟩

/-- A disk with a source that is the temporary path of a file in the same directory, and a second file that cannot be
put in its place. -/
def tempSource : World where
  disk := { nodes := [(["task.ts.tmp".toList], .file [1, 2]), (["defect.ts".toList], .dir)] }

/-- The check lets a source pass that is the temporary path of a target, and a commit that fails then loses it. -/
theorem temp_source_is_lost :
    checkDistinct [] ⟨"task.ts.tmp".toList⟩ ⟨".".toList⟩ sampleFiles = .ok () ∧
      ¬ ((writtenPaths ⟨"task.ts.tmp".toList⟩ ⟨".".toList⟩ sampleFiles).map (Path.resolve? [])).Nodup ∧
      tempSource.content? ⟨"task.ts.tmp".toList⟩ = some [1, 2] ∧
      ∃ w', (perform false ⟨"task.ts.tmp".toList⟩ ⟨".".toList⟩ sampleFiles "root".toList).run tempSource =
          (.error ⟨.write ⟨"./defect.ts".toList⟩ .isDirectory, [⟨"./task.ts".toList⟩]⟩, w') ∧
        w'.content? ⟨"task.ts.tmp".toList⟩ = none := by
  have failed : ((perform false ⟨"task.ts.tmp".toList⟩ ⟨".".toList⟩ sampleFiles "root".toList).run tempSource).1 =
      .error ⟨.write ⟨"./defect.ts".toList⟩ .isDirectory, [⟨"./task.ts".toList⟩]⟩ := by
    decide +kernel
  exact ⟨rfl, by decide +kernel, by decide +kernel, _, Effect.run_of_fst failed, by decide +kernel⟩

end Cleave.Commit
