import Cleave.Proofs.Commit.Run

/-!
# What a commit does

A commit that fails leaves the source alone, and of the targets it changes exactly those that it reports as written
(`failed_commit_keeps_source`). A commit that succeeds puts every file in its place, keeps what the source held in
the backup, and changes nothing else (`commit_exact`). Both hold on disks without links, where every file has one name
and the null device is in its place. What is written to a temporary path that is a second name of a file reaches this
file, and a device there swallows it and is then moved to the target (`failed_commit_overwrites_source`,
`commit_reaches_other_file`).
-/

namespace Cleave.Commit

open Effect

variable {w w' m : World} {source outDir : Path} {files done left : List GeneratedFile} {force : Bool} {root : Text}

/-- The paths that may have been touched when some files are in their places and the source is not replaced. -/
def touchedPaths (source outDir : Path) (files done : List GeneratedFile) : List Path :=
  done.map (target outDir) ++ backupPath source :: (places source outDir files).map tempPath

theorem notMem_touchedPaths {cwd l : Location} (targets : ∀ f ∈ done, (target outDir f).locationFrom cwd ≠ l)
    (backup : (backupPath source).locationFrom cwd ≠ l)
    (temps : ∀ p ∈ places source outDir files, (tempPath p).locationFrom cwd ≠ l) :
    l ∉ (touchedPaths source outDir files done).map (Path.locationFrom cwd) := by
  simp only [touchedPaths, List.map_append, List.map_cons, List.map_map, List.mem_append, List.mem_cons,
    List.mem_map, not_or, not_exists, not_and]
  exact ⟨targets, backup.symm, temps⟩

theorem filePaths_subset_touchedPaths :
    filePaths outDir done files ⊆ touchedPaths source outDir files done := by
  rw [filePaths, touchedPaths, places, List.map_cons, List.map_map]
  refine List.append_subset.mpr ⟨List.subset_append_left _ _, fun p member => ?_⟩
  exact List.mem_append_right _ (List.mem_cons_of_mem _ (List.mem_cons_of_mem _ member))

theorem target_mem_places {f : GeneratedFile} (member : f ∈ files) : target outDir f ∈ places source outDir files :=
  List.mem_cons_of_mem _ (List.mem_map_of_mem member)

theorem Distinct.target_ne_source {cwd : Location} {f : GeneratedFile} (distinct : Distinct cwd source outDir files)
    (member : f ∈ files) : (target outDir f).locationFrom cwd ≠ source.locationFrom cwd := by
  intro same
  refine (List.nodup_cons.mp distinct.nodup).1 (List.mem_map.mpr ⟨_, List.mem_map_of_mem member, same⟩)

theorem Distinct.target_ne_target {cwd : Location} {f g : GeneratedFile}
    (distinct : Distinct cwd source outDir (done ++ left)) (earlier : f ∈ done) (later : g ∈ left) :
    (target outDir f).locationFrom cwd ≠ (target outDir g).locationFrom cwd := by
  have nodup := (List.nodup_cons.mp distinct.nodup).2
  rw [List.map_map, List.map_append, List.nodup_append] at nodup
  exact nodup.2.2 _ (List.mem_map_of_mem earlier) _ (List.mem_map_of_mem later)

/-- The state of a commit after its files have been written as far as possible: the backup holds what the source
held, and some files are in their places. -/
structure Underway (source outDir : Path) (files done : List GeneratedFile) (w w' : World) : Prop where
  backup : ∃ bytes, w.disk.read w.cwd source = .ok bytes ∧ w'.Holds (backupPath source) bytes
  written : Written outDir w' done
  frame : w.Frame ((touchedPaths source outDir files done).map (Path.locationFrom w.cwd)) w'

theorem underway_of_writeAll (links : w.disk.LinkFree) (device : w.disk.DeviceInPlace)
    (distinct : Distinct w.cwd source outDir files)
    (apart : ∀ p ∈ places source outDir files, ∀ q ∈ places source outDir files,
      (tempPath p).locationFrom w.cwd ≠ q.locationFrom w.cwd)
    {backup : Path} (saved : (saveBackup force source).run w = (.ok backup, m))
    {r : Except CommitError (List Path)} (run : (writeAll outDir [] files).run m = (r, w')) :
    backup = backupPath source ∧ ∃ done left, files = done ++ left ∧ Underway source outDir files done w w' ∧
      ((∃ e, r = .error ⟨e, done.map (target outDir)⟩) ∨ left = [] ∧ r = .ok (done.map (target outDir))) := by
  have saving := touches_saveBackup force source w _ m links saved
  obtain ⟨rfl, bytes, held, holds⟩ := saveBackup_done links device saved
  have nodup := (List.nodup_cons.mp distinct.nodup).2
  rw [List.map_map] at nodup
  obtain ⟨done, left, rfl, written, frame, ends⟩ :=
    writeAll_run saving.cwd (saving.disk.links links) (saving.disk.device device) nodup
      (fun f member g member' => apart _ (target_mem_places member) _ (target_mem_places member')) run
  refine ⟨rfl, done, left, rfl, ⟨⟨bytes, held, ?_⟩, written, ?_⟩, by simpa using ends⟩
  · refine frame.holds (saving.disk.links links) ?_ holds
    rw [saving.cwd]
    refine notMem_filePaths (fun f member => ?_) fun f _ => (backup_ne_temp w.cwd source _).symm
    exact distinct.backup _ (target_mem_places (List.mem_append_left _ member))
  · refine (saving.mono (List.map_subset _ ?_)).trans (frame.mono (List.map_subset _ filePaths_subset_touchedPaths))
    simp [touchedPaths]

/-- The files stay in their places when the source is replaced or tried. -/
theorem Underway.written_of_frame (underway : Underway source outDir files files w m)
    (distinct : Distinct w.cwd source outDir files)
    (apart : ∀ p ∈ places source outDir files, ∀ q ∈ places source outDir files,
      (tempPath p).locationFrom w.cwd ≠ q.locationFrom w.cwd) (links : w.disk.LinkFree)
    (frame : m.Frame [source.locationFrom w.cwd, (tempPath source).locationFrom w.cwd] w') :
    Written outDir w' files := by
  refine underway.written.frame (underway.frame.disk.links links) frame (fun f member => ?_) fun f member => ?_
  · rw [underway.frame.cwd, List.mem_cons, List.mem_singleton, not_or]
    exact ⟨distinct.target_ne_source member, (apart _ List.mem_cons_self _ (target_mem_places member)).symm⟩
  · rw [underway.frame.cwd, List.mem_cons, List.mem_singleton, not_or]
    exact ⟨apart _ (target_mem_places member) _ List.mem_cons_self,
      fun same => distinct.target_ne_source member (locationFrom_of_temp same)⟩

/-- What has happened when a commit fails: nothing, or the source was read and some files are written. -/
theorem Ends.of_error {e : CommitError} (links : w.disk.LinkFree) (device : w.disk.DeviceInPlace)
    (apart : TempsApart w.cwd source outDir files) (ends : Ends force source outDir files root w (.error e) w') :
    e.written = [] ∧ w'.cwd = w.cwd ∧ w'.disk = w.disk ∨
      Distinct w.cwd source outDir files ∧ (∃ bytes, w.disk.read w.cwd source = .ok bytes) ∧
        ∃ done left, files = done ++ left ∧ e.written = done.map (target outDir) ∧ Written outDir w' done ∧
          w.Frame ((touchedPaths source outDir files done).map (Path.locationFrom w.cwd)) w' := by
  cases ends with
  | refused => exact .inl ⟨rfl, rfl, rfl⟩
  | unsaved accepted failed =>
    have frame := touches_saveBackup force source w _ w' links failed
    cases saveBackup_saves failed with
    | givenUp e faults => exact .inl ⟨rfl, rfl, rfl⟩
    | @made bytes _ _ _ held _ _ =>
      refine .inr ⟨distinct_of_checkDistinct accepted, ⟨bytes, held⟩, [], files, rfl, rfl, .nil _ _, ?_⟩
      exact frame.mono (List.map_subset _ (by simp [touchedPaths]))
  | unwritten accepted saved failed =>
    have distinct := distinct_of_checkDistinct accepted
    rw [tempsApart_iff distinct] at apart
    obtain ⟨-, done, left, cut, underway, ⟨e', same⟩ | ⟨-, same⟩⟩ :=
      underway_of_writeAll links device distinct apart saved failed
    · cases same
      obtain ⟨bytes, held, -⟩ := underway.backup
      exact .inr ⟨distinct, ⟨bytes, held⟩, done, left, cut, rfl, underway.written, underway.frame⟩
    · cases same
  | unreplaced accepted saved wrote failed =>
    have distinct := distinct_of_checkDistinct accepted
    rw [tempsApart_iff distinct] at apart
    obtain ⟨-, done, left, rfl, underway, ⟨e', same⟩ | ⟨rfl, same⟩⟩ :=
      underway_of_writeAll links device distinct apart saved wrote
    · cases same
    · cases same
      obtain ⟨bytes, held, -⟩ := underway.backup
      have links' := underway.frame.disk.links links
      -- a replacement that fails touches only the temporary path of the source
      obtain ⟨-, frame⟩ | ⟨same, -⟩ := replaceFile_cases links' failed
      · rw [underway.frame.cwd] at frame
        rw [List.append_nil] at distinct apart underway ⊢
        have written := underway.written_of_frame distinct apart links (frame.mono (by simp))
        refine .inr ⟨distinct, ⟨bytes, held⟩, done, [], by simp, rfl, written, underway.frame.trans (frame.mono ?_)⟩
        simp [touchedPaths, places]
      · cases same

/-- A commit that fails does not touch the source, whatever access is struck. The files it reports as written are the
first ones, and each of them is in its place; the targets of the others hold what they held. -/
theorem failed_commit_keeps_source (force : Bool) (source outDir : Path) (files : List GeneratedFile) (root : Text)
    (w w' : World) (e : CommitError) (links : w.disk.LinkFree) (device : w.disk.DeviceInPlace)
    (apart : TempsApart w.cwd source outDir files)
    (run : (perform force source outDir files root).run w = (.error e, w')) :
    w'.disk.read w'.cwd source = w.disk.read w.cwd source ∧ w'.content? source = w.content? source ∧
      ∃ done left, files = done ++ left ∧ e.written = done.map (target outDir) ∧
        (∀ f ∈ done, w'.Holds (target outDir f) (Utf8.encode f.content)) ∧
        ∀ f ∈ left, w'.content? (target outDir f) = w.content? (target outDir f) := by
  obtain ⟨none, cwd, disk⟩ | ⟨distinct, ⟨bytes, held⟩, done, left, rfl, names, written, frame⟩ :=
    (perform_ends run).of_error links device apart
  · have same (p : Path) : w'.content? p = w.content? p := by rw [World.content?, World.content?, cwd, disk]
    exact ⟨by rw [cwd, disk], same source, [], files, rfl, none, by simp, fun f _ => same _⟩
  · rw [tempsApart_iff distinct] at apart
    have out : source.locationFrom w.cwd ∉
        (touchedPaths source outDir (done ++ left) done).map (Path.locationFrom w.cwd) :=
      notMem_touchedPaths (fun f member => distinct.target_ne_source (List.mem_append_left _ member))
        (distinct.backup _ List.mem_cons_self).symm fun p member => apart p member _ List.mem_cons_self
    refine ⟨?_, frame.content? out, done, left, rfl, names, written.holds, fun f member => frame.content? ?_⟩
    · rw [frame.cwd, held]
      rcases Disk.read_eq_ok held with found | ⟨found, rfl⟩
      · rw [Disk.read, frame.disk.stat links out found]
      · rw [Disk.read, frame.disk.stat links out found]
    · have inside := List.mem_append_right done member
      refine notMem_touchedPaths (fun g earlier => ?_) (distinct.backup _ (target_mem_places inside)).symm
        fun p place => apart p place _ (target_mem_places inside)
      exact distinct.target_ne_target earlier member

/-- A disk where the second of two files cannot be put in its place. -/
def obstructed : World where
  disk.nodes :=
    [(["db.ts".toList], .file [1, 2]), (["out".toList], .dir), (["out".toList, "defect.ts".toList], .dir)]

theorem failed_commit_keeps_source_sample :
    ∃ w', (perform false ⟨"db.ts".toList⟩ ⟨"out".toList⟩ sampleFiles "root".toList).run obstructed =
        (.error ⟨.write ⟨"out/defect.ts".toList⟩ .isDirectory, [⟨"out/task.ts".toList⟩]⟩, w') ∧
      w'.content? ⟨"db.ts".toList⟩ = some [1, 2] ∧
      ∃ done left, sampleFiles = done ++ left ∧
        [⟨"out/task.ts".toList⟩] = done.map (target ⟨"out".toList⟩) ∧
        (∀ f ∈ done, w'.Holds (target ⟨"out".toList⟩ f) (Utf8.encode f.content)) ∧
        ∀ f ∈ left, w'.content? (target ⟨"out".toList⟩ f) = obstructed.content? (target ⟨"out".toList⟩ f) := by
  have failed : ((perform false ⟨"db.ts".toList⟩ ⟨"out".toList⟩ sampleFiles "root".toList).run obstructed).1 =
      .error ⟨.write ⟨"out/defect.ts".toList⟩ .isDirectory, [⟨"out/task.ts".toList⟩]⟩ := by
    decide +kernel
  obtain ⟨-, content, written⟩ := failed_commit_keeps_source _ _ _ _ _ _ _ _ (Disk.linkFree_of_nodes (by decide) rfl)
    (Disk.deviceInPlace_of_nodes (by decide)) (by decide +kernel) (run_of_fst failed)
  exact ⟨_, run_of_fst failed, content.trans (by decide +kernel), written⟩

/-- Where the first file is written before it is moved to its place. -/
def firstTemp : Location :=
  ["out".toList, "task.ts.tmp".toList]

/-- A source with a second name at the temporary path of a target is overwritten by a commit that fails, and a device
there is all that comes to the target that is reported as written. -/
theorem failed_commit_overwrites_source :
    let commit := perform false ⟨"db.ts".toList⟩ ⟨"out".toList⟩ sampleFiles "root".toList
    let failure : CommitError := ⟨.write ⟨"out/defect.ts".toList⟩ .isDirectory, [⟨"out/task.ts".toList⟩]⟩
    TempsApart [] ⟨"db.ts".toList⟩ ⟨"out".toList⟩ sampleFiles ∧
      (let named := obstructed.withName ["db.ts".toList] firstTemp [1, 2]
      (∀ l target, named.disk.get? l ≠ some (.link target)) ∧ named.content? ⟨"db.ts".toList⟩ = some [1, 2] ∧
        ∃ w', commit.run named = (.error failure, w') ∧
          w'.content? ⟨"db.ts".toList⟩ = some (Utf8.encode "one".toList)) ∧
      let taken := obstructed.withDevice firstTemp
      (∀ l target, taken.disk.get? l ≠ some (.link target)) ∧
        ∃ w', commit.run taken = (.error failure, w') ∧
          w'.disk.stat w'.cwd ⟨"out/task.ts".toList⟩ = .ok .nullDevice := by
  intro commit failure
  have named : (commit.run (obstructed.withName ["db.ts".toList] firstTemp [1, 2])).1 = .error failure := by
    decide +kernel
  have taken : (commit.run (obstructed.withDevice firstTemp)).1 = .error failure := by
    decide +kernel
  refine ⟨by decide +kernel, ⟨?_, by decide +kernel, _, run_of_fst named, by decide +kernel⟩,
    ?_, _, run_of_fst taken, by decide +kernel⟩
  · exact Disk.get?_ne_link_of_nodes (by decide +kernel)
  · exact Disk.get?_ne_link_of_nodes (by decide +kernel)

/-- What is left behind by a commit that succeeds: every file is in its place, the source holds the root, the backup
holds what the source held, no temporary file is left, and every other regular file is unchanged. -/
structure Landed (source outDir : Path) (files : List GeneratedFile) (root : Text) (w w' : World) : Prop where
  targets : ∀ f ∈ files, w'.Holds (target outDir f) (Utf8.encode f.content)
  replaced : w'.Holds source (Utf8.encode root)
  backup : ∃ bytes, w.disk.read w.cwd source = .ok bytes ∧ w'.Holds (backupPath source) bytes
  clean : ∀ p ∈ places source outDir files, w'.content? (tempPath p) = none
  others : ∀ l, some l ∉ (writtenPaths source outDir files).map (Path.resolve? w.cwd) →
    w'.disk.fileAt? l = w.disk.fileAt? l

/-- A commit that succeeds reports its files, and they have landed, if no temporary path is in the way of another. -/
theorem landed_of_perform {report : CommitReport} (links : w.disk.LinkFree) (device : w.disk.DeviceInPlace)
    (apart : ((places source outDir files ++ (places source outDir files).map tempPath).map
      (Path.resolve? w.cwd)).Nodup)
    (run : (perform force source outDir files root).run w = (.ok report, w')) :
    report = { backup := backupPath source, written := files.map (target outDir), root := source } ∧
      Landed source outDir files root w w' := by
  have ends := perform_ends run
  cases ends with
  | done accepted saved wrote replaced =>
    have distinct := distinct_of_checkDistinct accepted
    have temps := (tempsApart_iff distinct).mp (tempsApart_of_nodup apart)
    obtain ⟨rfl, done, left, rfl, underway, ⟨e, same⟩ | ⟨rfl, same⟩⟩ :=
      underway_of_writeAll links device distinct temps saved wrote
    · cases same
    · cases same
      rw [List.append_nil] at *
      have links' := underway.frame.disk.links links
      have frame := touches_replaceFile _ _ _ _ w' links' replaced
      rw [underway.frame.cwd] at frame
      obtain ⟨holds, gone⟩ := replaceFile_done links' (underway.frame.disk.device device) replaced
      have written := underway.written_of_frame distinct temps links frame
      obtain ⟨bytes, held, saved⟩ := underway.backup
      refine ⟨rfl, written.holds, holds, ⟨bytes, held, frame.holds links' ?_ saved⟩, ?_, fun l other => ?_⟩
      · rw [underway.frame.cwd]
        simp [(distinct.backup _ List.mem_cons_self).symm, backup_ne_temp]
      · exact List.forall_mem_cons.mpr ⟨gone, List.forall_mem_map.mpr written.clean⟩
      · refine (touches_perform _ _ _ _ _ w _ w' links run).disk.fileAt? fun member => other ?_
        rw [distinct.map_resolve?]
        exact List.mem_map_of_mem member

/-- A commit that succeeds does what it reports and nothing else, if the source, the targets and their temporary paths
are distinct. Every file is in its place, the source holds the root, the backup holds what the source held, no
temporary file is left, and every other regular file is unchanged. -/
theorem commit_exact (force : Bool) (source outDir : Path) (files : List GeneratedFile) (root : Text)
    (w w' : World) (report : CommitReport) (links : w.disk.LinkFree) (device : w.disk.DeviceInPlace)
    (apart : ((places source outDir files ++ (places source outDir files).map tempPath).map
      (Path.resolve? w.cwd)).Nodup)
    (run : (perform force source outDir files root).run w = (.ok report, w')) :
    report = { backup := backupPath source, written := files.map (target outDir), root := source } ∧
      (∀ f ∈ files, w'.Holds (target outDir f) (Utf8.encode f.content)) ∧ w'.Holds source (Utf8.encode root) ∧
      (∃ bytes, w.disk.read w.cwd source = .ok bytes ∧ w'.Holds (backupPath source) bytes) ∧
      (∀ p ∈ places source outDir files, w'.content? (tempPath p) = none) ∧
      ∀ l, some l ∉ (writtenPaths source outDir files).map (Path.resolve? w.cwd) →
        w'.disk.fileAt? l = w.disk.fileAt? l := by
  obtain ⟨same, landed⟩ := landed_of_perform links device apart run
  exact ⟨same, landed.targets, landed.replaced, landed.backup, landed.clean, landed.others⟩

/-- A disk with a source and a null device. -/
def unobstructed : World where
  disk.nodes :=
    [(["db.ts".toList], .file [1, 2]), (["dev".toList], .dir), (["dev".toList, "null".toList], .nullDevice)]

theorem commit_exact_sample :
    ∃ w', (perform false ⟨"db.ts".toList⟩ ⟨"out".toList⟩ sampleFiles "root".toList).run unobstructed =
        (.ok ⟨⟨"db.ts.backup".toList⟩, [⟨"out/task.ts".toList⟩, ⟨"out/defect.ts".toList⟩], ⟨"db.ts".toList⟩⟩, w') ∧
      (∀ f ∈ sampleFiles, w'.Holds (target ⟨"out".toList⟩ f) (Utf8.encode f.content)) ∧
      w'.Holds ⟨"db.ts".toList⟩ (Utf8.encode "root".toList) ∧ w'.Holds ⟨"db.ts.backup".toList⟩ [1, 2] := by
  have done : ((perform false ⟨"db.ts".toList⟩ ⟨"out".toList⟩ sampleFiles "root".toList).run unobstructed).1 =
      .ok ⟨⟨"db.ts.backup".toList⟩, [⟨"out/task.ts".toList⟩, ⟨"out/defect.ts".toList⟩], ⟨"db.ts".toList⟩⟩ := by
    decide +kernel
  obtain ⟨-, files, root, ⟨bytes, held, backup⟩, -⟩ := commit_exact _ _ _ _ _ _ _ _
    (Disk.linkFree_of_nodes (by decide) rfl) (Disk.deviceInPlace_of_nodes (by decide)) (by decide +kernel) (run_of_fst done)
  obtain rfl : [1, 2] = bytes := Except.ok.inj held
  exact ⟨_, run_of_fst done, files, root, backup⟩

/-- A source, another file, and the directory for the files of a commit. -/
def beside : World where
  disk.nodes := [(["db.ts".toList], .file [1, 2]), (["notes.txt".toList], .file [3]), (["out".toList], .dir)]

/-- Another file with a second name at the temporary path of a target is overwritten by a commit that succeeds, and a
device there is all that comes to the target. -/
theorem commit_reaches_other_file :
    let commit := perform false ⟨"db.ts".toList⟩ ⟨"out".toList⟩ sampleFiles "root".toList
    let report : CommitReport :=
      ⟨⟨"db.ts.backup".toList⟩, [⟨"out/task.ts".toList⟩, ⟨"out/defect.ts".toList⟩], ⟨"db.ts".toList⟩⟩
    ((places ⟨"db.ts".toList⟩ ⟨"out".toList⟩ sampleFiles ++
        (places ⟨"db.ts".toList⟩ ⟨"out".toList⟩ sampleFiles).map tempPath).map (Path.resolve? [])).Nodup ∧
      (let named := beside.withName ["notes.txt".toList] firstTemp [3]
      (∀ l target, named.disk.get? l ≠ some (.link target)) ∧ named.content? ⟨"notes.txt".toList⟩ = some [3] ∧
        ∃ w', commit.run named = (.ok report, w') ∧
          w'.content? ⟨"notes.txt".toList⟩ = some (Utf8.encode "one".toList)) ∧
      let taken := beside.withDevice firstTemp
      (∀ l target, taken.disk.get? l ≠ some (.link target)) ∧
        ∃ w', commit.run taken = (.ok report, w') ∧
          w'.disk.stat w'.cwd ⟨"out/task.ts".toList⟩ = .ok .nullDevice := by
  intro commit report
  have named : (commit.run (beside.withName ["notes.txt".toList] firstTemp [3])).1 = .ok report := by
    decide +kernel
  have taken : (commit.run (beside.withDevice firstTemp)).1 = .ok report := by
    decide +kernel
  refine ⟨by decide +kernel, ⟨?_, by decide +kernel, _, run_of_fst named, by decide +kernel⟩,
    ?_, _, run_of_fst taken, by decide +kernel⟩
  · exact Disk.get?_ne_link_of_nodes (by decide +kernel)
  · exact Disk.get?_ne_link_of_nodes (by decide +kernel)

end Cleave.Commit
