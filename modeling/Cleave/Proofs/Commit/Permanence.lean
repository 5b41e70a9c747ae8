import Cleave.Proofs.Commit.Outcome
import Cleave.Proofs.Run.Split

/-!
# Backups stay

Without force no split writes to a backup that it sees: the saving of the source keeps or refuses it, and the files
that are written go elsewhere. A restore and a rewrite of the source do not come near it. So a backup holds the same
from the step that makes it on (`backup_permanent`). A split that fails to see the backup writes over it, and so does one
that writes to a second name of it (`split_overwrites_backup`).
-/

namespace Cleave

open Effect Commit

variable {w w' w'' : World} {source outDir : Path} {files : List GeneratedFile} {root : Text} {bytes : Bytes}

namespace World

/-- Whatever else changes, one place stays as it is. -/
def Leaves (w : World) (l : Location) (w' : World) : Prop :=
  ∃ touched, l ∉ touched ∧ w.Frame touched w'

theorem Leaves.content? {p : Path} (leaves : w.Leaves (p.locationFrom w.cwd) w') : w'.content? p = w.content? p := by
  obtain ⟨touched, out, frame⟩ := leaves
  exact frame.content? out

theorem get?_of_content? {p : Path} (held : w.content? p = some bytes) :
    w.disk.get? (p.locationFrom w.cwd) = some (.file bytes) := by
  rw [World.content?, Path.resolve?] at held
  split at held
  · cases held
  · rw [Option.bind_some, Disk.fileAt?] at held
    split at held
    · rename_i content found
      cases held
      exact found
    · cases held

end World

/-! ## Splits -/

namespace Commit

/-- The saving of a source without force does not write to a backup that is there. -/
theorem saveBackup_leaves (links : w.disk.LinkFree) (spared : w.Spares 1)
    (saved : w.content? (backupPath source) = some bytes) {r : Except WriteError Path}
    (run : (saveBackup false source).run w = (r, w')) : w.Frame [] w' := by
  cases saveBackup_saves run with
  | givenUp e faults => exact .faults _ _ _
  | kept faults _ _ => exact .faults _ _ _
  | @made _ faults _ _ _ allowed run =>
    -- a path that can be written to leads to what its location holds, so the backup would have been seen
    have unseen := allowed.resolve_left Bool.false_ne_true spared
    have blocked {content : Bytes} {d : Disk} : w.disk.write w.cwd (backupPath source) content ≠ .ok d := by
      intro done
      exact unseen _ ((Disk.write_eq_ok links done).1.stat links (World.get?_of_content? saved))
    rcases run_bind_adapt run with ⟨e, failed, -⟩ | ⟨_, m, copied, -⟩
    · obtain ⟨cwd, ⟨-, same | ⟨content, torn⟩⟩ | ⟨ok, -⟩⟩ := run_copyFile failed
      · exact ⟨cwd, same ▸ .refl _ _⟩
      · exact absurd torn blocked
      · cases ok
    · obtain ⟨-, ⟨⟨e, error⟩, -⟩ | ⟨-, content, -, done⟩⟩ := run_copyFile copied
      · cases error
      · exact absurd done blocked

theorem perform_leaves (links : w.disk.LinkFree) (spared : w.Spares 1)
    (saved : w.content? (backupPath source) = some bytes) {r : Except CommitError CommitReport}
    (run : (perform false source outDir files root).run w = (r, w')) :
    w.Leaves ((backupPath source).locationFrom w.cwd) w' := by
  rcases run_bind_adapt run with ⟨e, checked, -⟩ | ⟨_, m, checked, rest⟩
  · obtain ⟨-, rfl⟩ := run_inspect checked
    exact ⟨[], List.not_mem_nil, .refl _ _⟩
  · obtain ⟨accepted, rfl⟩ := run_inspect checked
    rcases run_bind_adapt rest with ⟨e, failed, -⟩ | ⟨backup, m, kept, rest⟩
    · exact ⟨[], List.not_mem_nil, saveBackup_leaves links spared saved failed⟩
    · have frame := saveBackup_leaves links spared saved kept
      refine ⟨_, (distinct_of_checkDistinct accepted.symm).backup_notMem, ?_⟩
      exact (touches_writeOut source outDir files root backup).after links (frame.mono (List.nil_subset _)) rest

end Commit

/-- A split without checks is over when it has prepared, or else it is not dry and its commit has the last word. -/
theorem Run.split_cases {checker : Checker} {e : Engine} {profile : Text} {dryRun forceBackup : Bool}
    {r : Except RunError Report}
    (run : (Run.split checker e profile source outDir { dryRun, forceBackup }).run w = (r, w')) :
    w' = w.next ∨
      dryRun = false ∧ ∃ files root s, (perform forceBackup source outDir files root).run w.next = (s, w') := by
  cases Run.ends_split rfl run with
  | stopped _ => exact .inl rfl
  | previewed _ _ => exact .inl rfl
  | aborted _ busy run => exact .inr ⟨by simp_all, _, _, _, run⟩
  | committed _ busy run => exact .inr ⟨by simp_all, _, _, _, run⟩

/-! ## Steps -/

/-- Something that happens to a source: it is split without force and without checks, it is put back from its backup,
or it is rewritten by others. Any access of a step may be struck. -/
inductive SourceStep
  | split (checker : Checker) (engine : Engine) (profile : Text) (outDir : Path) (dryRun : Bool)
      (faults : List (Option Fault))
  | restore (faults : List (Option Fault))
  | rewrite (content : Bytes) (faults : List (Option Fault))

namespace SourceStep

/-- The world after a step. -/
def run (source : Path) (w : World) : SourceStep → World
  | split checker engine profile outDir dryRun faults =>
    ((Run.split checker engine profile source outDir { dryRun }).run { w with faults }).2
  | restore faults => ((Commit.restore source).run { w with faults }).2
  | rewrite content faults => ((writeFile source content).run { w with faults }).2

/-- The world after some steps. -/
def runAll (source : Path) (w : World) (steps : List SourceStep) : World :=
  steps.foldl (run source) w

/-- A split that is not dry learns whether there is a backup. It asks in its third access, and if that were struck it
would go on as if there were none. -/
def SeesBackup : SourceStep → Prop
  | split _ _ _ _ dryRun faults => dryRun = false → faults[2]?.join = none
  | _ => True

theorem run_split_cases (source : Path) (w : World) (checker : Checker) (engine : Engine) (profile : Text)
    (outDir : Path) (dryRun : Bool) (faults : List (Option Fault)) :
    run source w (split checker engine profile outDir dryRun faults) = World.next { w with faults } ∨
      dryRun = false ∧ ∃ files root r, (perform false source outDir files root).run (World.next { w with faults }) =
        (r, run source w (split checker engine profile outDir dryRun faults)) :=
  Run.split_cases (Prod.eta _).symm

theorem exists_frame (links : w.disk.LinkFree) (source : Path) (s : SourceStep) :
    ∃ touched, w.Frame touched (s.run source w) := by
  cases s with
  | split checker engine profile outDir dryRun faults =>
    rcases run_split_cases source w checker engine profile outDir dryRun faults with ended | ⟨-, files, root, r, run⟩
    · rw [ended]
      exact ⟨[], .faults _ _ _⟩
    · exact ⟨_, (touches_perform _ _ _ _ _).after links (.faults _ _ _) run⟩
  | restore faults => exact ⟨_, (touches_restore source).after links (.faults _ _ _) (Prod.eta _).symm⟩
  | rewrite content faults =>
    exact ⟨_, (Touches.writeFile source content).after links (.faults _ _ _) (Prod.eta _).symm⟩

theorem leaves_backup {s : SourceStep} (links : w.disk.LinkFree) (sees : s.SeesBackup)
    (saved : w.content? (backupPath source) = some bytes) :
    w.Leaves ((backupPath source).locationFrom w.cwd) (s.run source w) := by
  have apart := Path.locationFrom_append_ne_self ending_backup w.cwd source
  cases s with
  | split checker engine profile outDir dryRun faults =>
    rcases run_split_cases source w checker engine profile outDir dryRun faults with ended | ⟨real, files, root, r, run⟩
    · rw [ended]
      exact ⟨[], List.not_mem_nil, .faults _ _ _⟩
    · have spared : (World.next { w with faults }).Spares 1 := World.spares_next.mpr (sees real)
      obtain ⟨touched, out, frame⟩ := perform_leaves (w := World.next { w with faults }) links spared saved run
      exact ⟨touched, out, (World.Frame.faults _ w _).trans frame⟩
  | restore faults =>
    refine ⟨_, ?_, (touches_restore source).after links (.faults _ _ _) (Prod.eta _).symm⟩
    rw [List.map_cons, List.map_singleton, List.mem_cons, List.mem_singleton, not_or]
    exact ⟨apart, backup_ne_temp w.cwd source source⟩
  | rewrite content faults =>
    refine ⟨_, ?_, (Touches.writeFile source content).after links (.faults _ _ _) (Prod.eta _).symm⟩
    rw [List.map_singleton, List.mem_singleton]
    exact apart

theorem linkFree_runAll (links : w.disk.LinkFree) (source : Path) (steps : List SourceStep) :
    (runAll source w steps).disk.LinkFree := by
  induction steps generalizing w with
  | nil => exact links
  | cons s steps ih =>
    obtain ⟨touched, frame⟩ := exists_frame links source s
    exact ih (frame.disk.links links)

theorem content?_runAll {steps : List SourceStep} (links : w.disk.LinkFree) (sees : ∀ s ∈ steps, s.SeesBackup)
    (saved : w.content? (backupPath source) = some bytes) :
    (runAll source w steps).content? (backupPath source) = some bytes := by
  induction steps generalizing w with
  | nil => exact saved
  | cons s steps ih =>
    obtain ⟨first, others⟩ := List.forall_mem_cons.mp sees
    obtain ⟨touched, frame⟩ := exists_frame links source s
    exact ih (frame.disk.links links) others ((leaves_backup links first saved).content?.trans saved)

/-- Once a source has a backup, the backup holds the same after all further steps that see it. -/
theorem backup_permanent (source : Path) (w : World) (before after : List SourceStep) (bytes : Bytes)
    (links : w.disk.LinkFree) (sees : ∀ s ∈ after, s.SeesBackup)
    (saved : (runAll source w before).content? (backupPath source) = some bytes) :
    (runAll source w (before ++ after)).content? (backupPath source) = some bytes := by
  rw [runAll, List.foldl_append]
  exact content?_runAll (linkFree_runAll links source before) sees saved

/-- A split of the sample text whose accesses may be struck. -/
def sampleSplit (faults : List (Option Fault)) : SourceStep :=
  split (fun _ _ => pure (.unknown [])) .sample "sample".toList ⟨"parts".toList⟩ false faults

/-- A disk with the sample text. -/
def sampleWorld : World where
  disk.nodes := [(["db.ts".toList], .file (Utf8.encode .sample))]

theorem backup_permanent_sample :
    let edited := Utf8.encode "fn b \x7b\x7d\n".toList
    let struck := sampleSplit [none, some ⟨.busy, none⟩]
    let later := [rewrite edited [], sampleSplit [], restore [], rewrite edited [], struck]
    (runAll ⟨"db.ts".toList⟩ sampleWorld [sampleSplit []]).content? ⟨"db.ts.backup".toList⟩ =
        some (Utf8.encode .sample) ∧
      (runAll ⟨"db.ts".toList⟩ sampleWorld ([sampleSplit []] ++ later)).content? ⟨"db.ts.backup".toList⟩ =
        some (Utf8.encode .sample) := by
  have saved : (runAll ⟨"db.ts".toList⟩ sampleWorld [sampleSplit []]).content? ⟨"db.ts.backup".toList⟩ =
      some (Utf8.encode .sample) := by
    decide +kernel
  intro edited struck later
  refine ⟨saved, backup_permanent _ _ _ _ _ (Disk.linkFree_of_nodes (by decide) rfl) ?_ saved⟩
  simp [later, struck, SeesBackup, sampleSplit]

/-- The sample text with a backup that is also the temporary file of the group that is split off. -/
def namedBackup : World :=
  World.withName
    { disk.nodes := [(["db.ts".toList], .file (Utf8.encode .sample)),
        (["db.ts.backup".toList], .file (Utf8.encode .sample)), (["parts".toList], .dir)] }
    ["db.ts.backup".toList] ["parts".toList, "misc.ts.tmp".toList] (Utf8.encode .sample)

/-- A backup with a second name at the temporary path of a group file is overwritten by a split, and so is a backup that
differs from the source if the split cannot find out that it is there. -/
theorem split_overwrites_backup :
    ((∀ l target, namedBackup.disk.get? l ≠ some (.link target)) ∧
      namedBackup.content? ⟨"db.ts.backup".toList⟩ = some (Utf8.encode .sample) ∧
      (runAll ⟨"db.ts".toList⟩ namedBackup [sampleSplit []]).content? ⟨"db.ts.backup".toList⟩ =
        some (Utf8.encode "/**\n * Misc\n * Auto-generated from db.ts\n */\nfn a \x7b\n\x7d\n".toList)) ∧
    sampleWorld.disk.LinkFree ∧
      (let edited := Utf8.encode "fn b \x7b\x7d\n".toList
      let blind := sampleSplit [none, none, some ⟨.inputOutput, none⟩]
      (runAll ⟨"db.ts".toList⟩ sampleWorld [sampleSplit []]).content? ⟨"db.ts.backup".toList⟩ =
          some (Utf8.encode .sample) ∧
        (runAll ⟨"db.ts".toList⟩ sampleWorld [sampleSplit [], rewrite edited [], blind]).content?
          ⟨"db.ts.backup".toList⟩ = some edited) := by
  refine ⟨⟨?_, by decide +kernel, by decide +kernel⟩, Disk.linkFree_of_nodes (by decide) rfl, by decide +kernel,
    by decide +kernel⟩
  exact Disk.get?_ne_link_of_nodes (by decide +kernel)

end SourceStep

end Cleave
