import Cleave.Proofs.Commit.Outcome
import Cleave.Proofs.Commit.Stages

/-!
# Undoing a commit

A commit that gets past its backup has saved the source, and nothing that it writes afterwards comes near the backup,
whatever the names of the files are: the targets are checked against it, and no temporary path ends like a backup. So
the source can be put back, even after a commit that failed and lost it (`restore_undoes_commit`). As for commits, the
disk has no links, every file has one name, and the null device is in its place. A backup with a second name at a
temporary path is overwritten, and a device at the temporary path of the source is moved to the source instead of what is
put back (`backup_is_overwritten`).
-/

namespace Cleave.Commit

open Effect

variable {w m w' : World} {source outDir : Path} {files : List GeneratedFile} {force : Bool} {root : Text}

/-- What a commit has done once it got past its backup: the backup holds what the source held. -/
theorem holds_backup_of_pastBackup {r : Except CommitError CommitReport} (links : w.disk.LinkFree)
    (device : w.disk.DeviceInPlace) (past : PastBackup r)
    (run : (perform force source outDir files root).run w = (r, w')) :
    w'.disk.LinkFree ∧ w'.disk.DeviceInPlace ∧
      ∃ bytes, w.disk.read w.cwd source = .ok bytes ∧ w'.Holds (backupPath source) bytes := by
  obtain ⟨accepted, backup, m, saved, rest⟩ := (pastBackup_iff run).mp past
  have distinct := distinct_of_checkDistinct accepted
  have saving := touches_saveBackup force source w _ m links saved
  have links' := saving.disk.links links
  have frame := touches_writeOut source outDir files root backup m r w' links' rest
  rw [saving.cwd] at frame
  obtain ⟨-, bytes, held, holds⟩ := saveBackup_done links device saved
  refine ⟨frame.disk.links links', frame.disk.device (saving.disk.device device), bytes, held, ?_⟩
  refine frame.holds links' ?_ holds
  rw [saving.cwd]
  exact distinct.backup_notMem

/-- A restore that succeeds puts what the backup holds in the place of the source and keeps the backup. -/
theorem restore_done {bytes : Bytes} {path : Path} (links : m.disk.LinkFree) (device : m.disk.DeviceInPlace)
    (saved : m.Holds (backupPath source) bytes) (run : (restore source).run m = (.ok path, w')) :
    path = backupPath source ∧ w'.Holds source bytes ∧ w'.Holds (backupPath source) bytes := by
  have frame := touches_restore source m _ w' links run
  have kept : w'.Holds (backupPath source) bytes := by
    refine frame.holds links ?_ saved
    simp only [List.map_cons, List.map_nil, List.mem_cons, List.not_mem_nil, or_false, not_or]
    exact ⟨Path.locationFrom_append_ne_self ending_backup m.cwd source, backup_ne_temp m.cwd source source⟩
  rcases run_bind run with ⟨e, -, same⟩ | ⟨answer, m', asked, rest⟩
  · cases same
  · obtain ⟨answer, same, rfl, -⟩ := run_query asked
    cases same
    cases answer with
    | false => cases (run_throw rest).1
    | true =>
      rcases run_bind_adapt rest with ⟨e, -, same⟩ | ⟨content, m', done, rest⟩
      · cases same
      · obtain ⟨rfl, known⟩ := run_readFile done
        have read : m.disk.read m.cwd (backupPath source) = .ok bytes := by
          rw [Disk.read, saved]
        obtain rfl : bytes = content := Except.ok.inj (read.symm.trans (known content rfl))
        rcases run_bind rest with ⟨e, -, same⟩ | ⟨_, m', replaced, rest⟩
        · cases same
        · obtain ⟨same, rfl⟩ := run_pure rest
          cases same
          exact ⟨rfl, (replaceFile_done (w := m.next.next) links device replaced).1, kept⟩

/-- A restore undoes every commit that got past its backup, whether the commit succeeded or failed, and whatever the
names of its files are. After the commit the backup holds what the source held before. A restore that then succeeds
puts that back in the place of the source and leaves the backup as it is. -/
theorem restore_undoes_commit (force : Bool) (source outDir : Path) (files : List GeneratedFile) (root : Text)
    (w m : World) (r : Except CommitError CommitReport) (links : w.disk.LinkFree) (device : w.disk.DeviceInPlace)
    (run : (perform force source outDir files root).run w = (r, m)) (past : PastBackup r) :
    ∃ bytes, w.disk.read w.cwd source = .ok bytes ∧ m.Holds (backupPath source) bytes ∧
      ∀ faults path w', (restore source).run { m with faults } = (.ok path, w') →
        w'.Holds source bytes ∧ w'.Holds (backupPath source) bytes := by
  obtain ⟨links', device', bytes, held, saved⟩ := holds_backup_of_pastBackup links device past run
  refine ⟨bytes, held, saved, fun faults path w' restored => ?_⟩
  exact (restore_done (m := { m with faults }) links' device' saved restored).2

/-- The commit fails and loses the source, which is the temporary path of a target; the source is put back. -/
theorem restore_undoes_commit_sample :
    ∃ m, (perform false ⟨"task.ts.tmp".toList⟩ ⟨".".toList⟩ sampleFiles "root".toList).run tempSource =
        (.error ⟨.write ⟨"./defect.ts".toList⟩ .isDirectory, [⟨"./task.ts".toList⟩]⟩, m) ∧
      m.content? ⟨"task.ts.tmp".toList⟩ = none ∧ m.Holds ⟨"task.ts.tmp.backup".toList⟩ [1, 2] ∧
      ∃ w', (restore ⟨"task.ts.tmp".toList⟩).run m = (.ok ⟨"task.ts.tmp.backup".toList⟩, w') ∧
        w'.Holds ⟨"task.ts.tmp".toList⟩ [1, 2] ∧ w'.Holds ⟨"task.ts.tmp.backup".toList⟩ [1, 2] := by
  have failed : ((perform false ⟨"task.ts.tmp".toList⟩ ⟨".".toList⟩ sampleFiles "root".toList).run tempSource).1 =
      .error ⟨.write ⟨"./defect.ts".toList⟩ .isDirectory, [⟨"./task.ts".toList⟩]⟩ := by
    decide +kernel
  obtain ⟨bytes, held, saved, undone⟩ := restore_undoes_commit _ _ _ _ _ _ _ _ (Disk.linkFree_of_nodes (by decide) rfl)
    (Disk.deviceInPlace_of_nodes (by decide)) (run_of_fst failed) rfl
  obtain rfl : [1, 2] = bytes := Except.ok.inj held
  refine ⟨_, run_of_fst failed, by decide +kernel, saved, ?_⟩
  generalize hm : ((perform false ⟨"task.ts.tmp".toList⟩ ⟨".".toList⟩ sampleFiles "root".toList).run tempSource).2 = m
    at saved undone ⊢
  have restored : ((restore ⟨"task.ts.tmp".toList⟩).run m).1 = .ok ⟨"task.ts.tmp.backup".toList⟩ := by
    rw [← hm]
    decide +kernel
  exact ⟨_, run_of_fst restored, undone m.faults _ _ (run_of_fst restored)⟩

/-- A source with its backup. -/
def backedUp : World where
  disk.nodes := [(["db.ts".toList], .file [1, 2]), (["db.ts.backup".toList], .file [1, 2]), (["out".toList], .dir)]

/-- A backup with a second name at the temporary path of a target is overwritten by a commit that succeeds, and a restore
puts back what is there then. A device at the temporary path of the source is all that a restore puts back after a
commit that failed. -/
theorem backup_is_overwritten :
    let commit := perform false ⟨"db.ts".toList⟩ ⟨"out".toList⟩ sampleFiles "root".toList
    let undo := restore ⟨"db.ts".toList⟩
    let failure : CommitError := ⟨.write ⟨"out/defect.ts".toList⟩ .isDirectory, [⟨"out/task.ts".toList⟩]⟩
    (let named := backedUp.withName ["db.ts.backup".toList] firstTemp [1, 2]
    (∀ l target, named.disk.get? l ≠ some (.link target)) ∧ named.content? ⟨"db.ts".toList⟩ = some [1, 2] ∧
      ∃ report m w', commit.run named = (.ok report, m) ∧
        m.content? ⟨"db.ts.backup".toList⟩ = some (Utf8.encode "one".toList) ∧
        undo.run m = (.ok ⟨"db.ts.backup".toList⟩, w') ∧
        w'.content? ⟨"db.ts".toList⟩ = some (Utf8.encode "one".toList)) ∧
      let taken := obstructed.withDevice ["db.ts.tmp".toList]
      (∀ l target, taken.disk.get? l ≠ some (.link target)) ∧ taken.content? ⟨"db.ts".toList⟩ = some [1, 2] ∧
        ∃ m w', commit.run taken = (.error failure, m) ∧
          undo.run m = (.ok ⟨"db.ts.backup".toList⟩, w') ∧
          w'.disk.stat w'.cwd ⟨"db.ts".toList⟩ = .ok .nullDevice := by
  intro commit undo failure
  refine ⟨⟨?_, by decide +kernel, ?_⟩, ?_, by decide +kernel, ?_⟩
  · exact Disk.get?_ne_link_of_nodes (by decide +kernel)
  · have done : (commit.run (backedUp.withName ["db.ts.backup".toList] firstTemp [1, 2])).1 =
        .ok ⟨⟨"db.ts.backup".toList⟩, [⟨"out/task.ts".toList⟩, ⟨"out/defect.ts".toList⟩], ⟨"db.ts".toList⟩⟩ := by
      decide +kernel
    have undone : (undo.run (commit.run (backedUp.withName ["db.ts.backup".toList] firstTemp [1, 2])).2).1 =
        .ok ⟨"db.ts.backup".toList⟩ := by
      decide +kernel
    exact ⟨_, _, _, run_of_fst done, by decide +kernel, run_of_fst undone, by decide +kernel⟩
  · exact Disk.get?_ne_link_of_nodes (by decide +kernel)
  · have failed : (commit.run (obstructed.withDevice ["db.ts.tmp".toList])).1 = .error failure := by
      decide +kernel
    have undone : (undo.run (commit.run (obstructed.withDevice ["db.ts.tmp".toList])).2).1 =
        .ok ⟨"db.ts.backup".toList⟩ := by
      decide +kernel
    exact ⟨_, _, run_of_fst failed, run_of_fst undone, by decide +kernel⟩

end Cleave.Commit
