import Cleave.Proofs.Commit.Targets
import Cleave.Proofs.Disk.Effect

/-!
# The run of a commit

Each step of a commit is taken apart into its accesses. A replacement makes the parent directories, writes the temporary
file and moves it to its place; if one of the last two steps fails, the temporary file is removed (`Replaces`). So a
replacement that fails touches only its temporary path. A backup is made only where it may be, and files are written up
to the first that fails (`writeAll_run`). `Ends` tells at which step a commit stops.
-/

namespace Cleave.World

/-- The same world, where the file in one place is in a second place as well. -/
def withName (w : World) (l k : Location) (content : Bytes) : World :=
  { w with disk := w.disk.addName l k (.file content) }

/-- The same world with a null device in a place. -/
def withDevice (w : World) (l : Location) : World :=
  { w with disk := w.disk.set l .nullDevice }

end Cleave.World

namespace Cleave.Commit

open Effect

variable {w w' : World} {source outDir p q : Path} {files : List GeneratedFile} {content : Bytes}

/-! ## Replacing a file -/

theorem temp_ne_null (cwd : Location) (p : Path) : (tempPath p).locationFrom cwd ≠ Disk.nullPlace :=
  Path.locationFrom_append_ne_concat ending_temp (by decide) cwd p ["dev".toList]

theorem backup_ne_null (cwd : Location) (p : Path) : (backupPath p).locationFrom cwd ≠ Disk.nullPlace :=
  Path.locationFrom_append_ne_concat ending_backup (by decide) cwd p ["dev".toList]

theorem grows_ensureParent (p : Path) : (ensureParent p).Grows := by
  rw [ensureParent]
  split
  · exact .pure _
  · split
    · exact .pure _
    · exact .adapt _ (.ensureDirs _)

/-- Writes a file beside its place and moves it there. -/
def putInPlace (p : Path) (content : Bytes) : Effect WriteError Unit := do
  adapt (.write (tempPath p)) (writeFile (tempPath p) content)
  adapt (.write p) (rename (tempPath p) p)

/-- A replacement ends without its directories, or it puts the file in its place, or else it clears up. -/
inductive Replaces (p : Path) (content : Bytes) (w : World) : Except WriteError Unit → World → Prop
  | unready {e : WriteError} {w' : World} (failed : (ensureParent p).run w = (.error e, w')) :
    Replaces p content w (.error e) w'
  | undone {e : WriteError} {m m' w' : World} {t : Except DiskError Unit} (ready : (ensureParent p).run w = (.ok (), m))
    (failed : (putInPlace p content).run m = (.error e, m')) (cleared : (removeFile (tempPath p)).run m' = (t, w')) :
    Replaces p content w (.error e) w'
  | done {m w' : World} (ready : (ensureParent p).run w = (.ok (), m))
    (placed : (putInPlace p content).run m = (.ok (), w')) : Replaces p content w (.ok ()) w'

theorem replaceFile_replaces {r : Except WriteError Unit} (run : (replaceFile p content).run w = (r, w')) :
    Replaces p content w r w' := by
  rcases run_bind run with ⟨e, failed, rfl⟩ | ⟨x, m, ready, rest⟩
  · exact .unready failed
  · obtain ⟨t, m', wrote, rest⟩ := run_bind_result rest
    cases t with
    | error e =>
      obtain ⟨t, w'', cleared, rest⟩ := run_bind_result rest
      obtain ⟨rfl, rfl⟩ := run_throw rest
      exact .undone ready (run_bind_of_error (run_adapt_of_error wrote)) cleared
    | ok _ =>
      obtain ⟨t, m'', moved, rest⟩ := run_bind_result rest
      have first : (putInPlace p content).run m = (adapt (.write p) (rename (tempPath p) p)).run m' :=
        run_bind_of_ok (run_adapt_of_ok wrote)
      cases t with
      | error e =>
        obtain ⟨t, w'', cleared, rest⟩ := run_bind_result rest
        obtain ⟨rfl, rfl⟩ := run_throw rest
        exact .undone ready (first.trans (run_adapt_of_error moved)) cleared
      | ok _ =>
        obtain ⟨rfl, rfl⟩ := run_pure rest
        exact .done ready (first.trans (run_adapt_of_ok moved))

/-- A file is not put in its place, and at most its temporary file is written, or that is written and moved. -/
theorem run_putInPlace {r : Except WriteError Unit} (run : (putInPlace p content).run w = (r, w')) :
    w'.cwd = w.cwd ∧
      ((∃ e, r = .error e) ∧ (w'.disk = w.disk ∨ ∃ part, w.disk.write w.cwd (tempPath p) part = .ok w'.disk) ∨
        r = .ok () ∧ ∃ d, w.disk.write w.cwd (tempPath p) content = .ok d ∧
          d.rename w.cwd (tempPath p) p = .ok w'.disk) := by
  rcases run_bind_adapt run with ⟨e, failed, rfl⟩ | ⟨_, m, wrote, rest⟩
  · obtain ⟨cwd, ⟨-, same | ⟨n, torn⟩⟩ | ⟨done, -⟩⟩ := run_changeBy failed
    · exact ⟨cwd, .inl ⟨⟨_, rfl⟩, .inl same⟩⟩
    · exact ⟨cwd, .inl ⟨⟨_, rfl⟩, .inr ⟨_, torn⟩⟩⟩
    · cases done
  · obtain ⟨cwd, ⟨⟨e, failed⟩, -⟩ | ⟨-, written⟩⟩ := run_changeBy wrote
    · cases failed
    · obtain ⟨t, moved, rfl⟩ := run_adapt rest
      obtain ⟨cwd', ⟨⟨e, rfl⟩, same⟩ | ⟨rfl, renamed⟩⟩ := run_change moved
      · exact ⟨cwd'.trans cwd, .inl ⟨⟨_, rfl⟩, .inr ⟨content, same ▸ written⟩⟩⟩
      · rw [cwd] at renamed
        exact ⟨cwd'.trans cwd, .inr ⟨rfl, m.disk, written, renamed⟩⟩

/-- What is done when a file cannot be put in its place. -/
theorem touches_giveUp (p : Path) (e : WriteError) :
    (do let _ ← result (removeFile (tempPath p)); throw e : Effect WriteError Unit).Touches [tempPath p] :=
  .bind (Touches.removeFile _).result fun _ => .throw _ _

theorem touches_replaceFile (p : Path) (content : Bytes) : (replaceFile p content).Touches [p, tempPath p] := by
  refine .bind ((grows_ensureParent p).touches _) fun _ => ?_
  refine .bind ((Touches.writeFile _ _).mono (by simp)).result fun written => ?_
  cases written with
  | error e => exact (touches_giveUp p _).mono (by simp)
  | ok _ =>
    refine .bind ((Touches.rename (fun cwd => temp_ne_null cwd p) p).mono (by simp)).result fun moved => ?_
    cases moved with
    | error e => exact (touches_giveUp p _).mono (by simp)
    | ok _ => exact .pure _ _

/-- A replacement fails and touches at most the temporary path, or the temporary file is written and moved. -/
theorem replaceFile_cases {r : Except WriteError Unit} (links : w.disk.LinkFree)
    (run : (replaceFile p content).run w = (r, w')) :
    (∃ e, r = .error e) ∧ w.Frame [(tempPath p).locationFrom w.cwd] w' ∨
      r = .ok () ∧ w'.cwd = w.cwd ∧ ∃ d d' : Disk, w.disk.Frame [] d ∧
        d.write w.cwd (tempPath p) content = .ok d' ∧ d'.rename w.cwd (tempPath p) p = .ok w'.disk := by
  cases replaceFile_replaces run with
  | unready failed => exact .inl ⟨⟨_, rfl⟩, (grows_ensureParent p w _ w' failed).mono (by simp)⟩
  | @undone e m m' _ t ready failed cleared =>
    have made := grows_ensureParent p w _ m ready
    have tried : w.Frame [(tempPath p).locationFrom w.cwd] m' := by
      refine (made.mono (List.nil_subset _)).trans ?_
      obtain ⟨cwd, ⟨-, same | ⟨part, written⟩⟩ | ⟨done, -⟩⟩ := run_putInPlace failed
      · exact ⟨cwd, same ▸ .refl _ _⟩
      · rw [made.cwd] at written
        exact ⟨cwd, .write (made.disk.links links) written⟩
      · cases done
    exact .inl ⟨⟨e, rfl⟩, (Touches.removeFile _).after links tried cleared⟩
  | @done m _ ready placed =>
    have made := grows_ensureParent p w _ m ready
    obtain ⟨cwd, ⟨⟨e, failed⟩, -⟩ | ⟨-, d, written, renamed⟩⟩ := run_putInPlace placed
    · cases failed
    · rw [made.cwd] at cwd written renamed
      exact .inr ⟨rfl, cwd, m.disk, d, made.disk, written, renamed⟩

/-- A file that is replaced holds its new content, and its temporary file is gone. -/
theorem replaceFile_done (links : w.disk.LinkFree) (device : w.disk.DeviceInPlace)
    (run : (replaceFile p content).run w = (.ok (), w')) :
    w'.Holds p content ∧ w'.content? (tempPath p) = none := by
  obtain ⟨⟨e, failed⟩, -⟩ | ⟨-, cwd, d, d', made, written, renamed⟩ := replaceFile_cases links run
  · cases failed
  · have links' := made.links links
    have frame := Disk.Frame.write links' written
    obtain ⟨-, ⟨device', -⟩ | ⟨free, rfl⟩⟩ := Disk.write_eq_ok links' written
    · exact absurd (made.device device _ device') (temp_ne_null w.cwd p)
    · have below := Disk.ne_root_of_get? free
      have links'' := frame.links links'
      have moved := Disk.Frame.rename links'' (temp_ne_null w.cwd p) renamed
      obtain ⟨admits, n, found, -, ⟨same, -⟩ | ⟨apart, clear, after⟩⟩ := Disk.rename_eq_ok links'' renamed
      · exact absurd same (Path.locationFrom_append_ne_self ending_temp w.cwd p)
      · rw [Disk.get?_set below, if_pos rfl] at found
        cases found
        have target : w'.disk.get? (p.locationFrom w.cwd) = some (.file content) := by
          rw [after, Disk.get?_set (Disk.ne_root_of_get? clear), if_pos rfl]
        constructor
        · rw [World.Holds, cwd]
          exact (admits.keepsDirs moved.dirs).stat (moved.links links'') target
        · have gone : w'.disk.get? ((tempPath p).locationFrom w.cwd) = none := by
            rw [after, Disk.get?_set (Disk.ne_root_of_get? clear), if_neg apart, Disk.get?_erase below, if_pos rfl]
          rw [World.content?, cwd, tempPath, Path.resolve?_append ending_temp, Option.bind_some, Disk.fileAt?,
            ← tempPath, gone]

/-! ## Saving the source -/

/-- Makes a new backup and compares it with what the source held. -/
def makeBackup (source : Path) (bytes : Bytes) : Effect WriteError Path := do
  adapt (.backup (backupPath source)) (copyFile source (backupPath source))
  let copied ← adapt (.backup (backupPath source)) (readFile (backupPath source))
  if copied = bytes then return backupPath source else throw (.backupMismatch (backupPath source))

theorem saveBackup_eq (force : Bool) (source : Path) :
    saveBackup force source = (do
      let bytes ← adapt (.backup source) (readFile source)
      if ← present (backupPath source) then
        let old ← adapt (.backup (backupPath source)) (readFile (backupPath source))
        if old = bytes then return backupPath source
        else if force then makeBackup source bytes
        else throw (.backupExists (backupPath source))
      else makeBackup source bytes) := by
  cases force <;> rfl

/-- How the saving of a source ends: it gives up and nothing has changed, a backup with the same content is kept, or
a new backup is made. Without force that is only done where no backup is seen. -/
inductive Saves (force : Bool) (source : Path) (w : World) : Except WriteError Path → World → Prop
  | givenUp (e : WriteError) (faults : List (Option Fault)) : Saves force source w (.error e) { w with faults }
  | kept {bytes : Bytes} (faults : List (Option Fault)) (held : w.disk.read w.cwd source = .ok bytes)
      (same : w.disk.read w.cwd (backupPath source) = .ok bytes) :
      Saves force source w (.ok (backupPath source)) { w with faults }
  | made {bytes : Bytes} {faults : List (Option Fault)} {r : Except WriteError Path} {w' : World}
      (held : w.disk.read w.cwd source = .ok bytes)
      (allowed : force = true ∨ (w.Spares 1 → ∀ n, w.disk.stat w.cwd (backupPath source) ≠ .ok n))
      (run : (makeBackup source bytes).run { w with faults } = (r, w')) : Saves force source w r w'

theorem saveBackup_saves {force : Bool} {r : Except WriteError Path}
    (run : (saveBackup force source).run w = (r, w')) : Saves force source w r w' := by
  rw [saveBackup_eq] at run
  rcases run_bind_adapt run with ⟨e, failed, rfl⟩ | ⟨bytes, m, done, rest⟩
  · obtain ⟨rfl, -⟩ := run_readFile failed
    exact .givenUp _ _
  · obtain ⟨rfl, known⟩ := run_readFile done
    have held := known bytes rfl
    rcases run_bind rest with ⟨e, failed, rfl⟩ | ⟨answer, m, asked, rest⟩
    · obtain ⟨answer, same, -⟩ := run_query failed
      cases same
    · obtain ⟨answer, same, rfl, -, truly⟩ := run_query asked
      cases same
      cases answer with
      | false =>
        refine .made held (.inr fun spared n found => ?_) rest
        cases truly (World.spares_next.mpr spared) n found
      | true =>
        rcases run_bind_adapt rest with ⟨e, failed, rfl⟩ | ⟨old, m, done, rest⟩
        · obtain ⟨rfl, -⟩ := run_readFile failed
          exact .givenUp _ _
        · obtain ⟨rfl, known⟩ := run_readFile done
          have seen := known old rfl
          split at rest
          · rename_i same
            obtain ⟨rfl, rfl⟩ := run_pure rest
            exact .kept _ held (same ▸ seen)
          · split at rest
            · rename_i forced
              exact .made held (.inl forced) rest
            · obtain ⟨rfl, rfl⟩ := run_throw rest
              exact .givenUp _ _

theorem touches_makeBackup (source : Path) (bytes : Bytes) :
    (makeBackup source bytes).Touches [backupPath source] := by
  refine .bind (.adapt _ (.copyFile _ _)) fun _ => .bind (.adapt _ (.look _ _)) fun copied => ?_
  split
  · exact .pure _ _
  · exact .throw _ _

theorem touches_saveBackup (force : Bool) (source : Path) :
    (saveBackup force source).Touches [backupPath source] := by
  intro w r w' links run
  cases saveBackup_saves run with
  | givenUp e faults => exact .faults _ _ _
  | kept faults _ _ => exact .faults _ _ _
  | @made bytes faults _ _ _ _ run =>
    exact (touches_makeBackup source bytes).after links (.faults _ w faults) run

/-- A backup that can be read is a regular file. -/
theorem holds_backup {cwd : Location} {d : Disk} (links : d.LinkFree) (device : d.DeviceInPlace) {bytes : Bytes}
    (seen : d.read cwd (backupPath source) = .ok bytes) : d.stat cwd (backupPath source) = .ok (.file bytes) := by
  rcases Disk.read_eq_ok seen with found | ⟨found, -⟩
  · exact found
  · exact absurd (device _ ((Disk.stat_eq_ok_iff links).mp found).2.2) (backup_ne_null cwd source)

/-- A source that is saved could be read, and the backup holds what it held. -/
theorem saveBackup_done {force : Bool} {backup : Path} (links : w.disk.LinkFree) (device : w.disk.DeviceInPlace)
    (run : (saveBackup force source).run w = (.ok backup, w')) :
    backup = backupPath source ∧
      ∃ bytes, w.disk.read w.cwd source = .ok bytes ∧ w'.Holds (backupPath source) bytes := by
  generalize result : Except.ok backup = r at run
  cases saveBackup_saves run with
  | givenUp e faults => cases result
  | @kept bytes faults held same =>
    cases result
    exact ⟨rfl, bytes, held, holds_backup links device same⟩
  | @made bytes faults _ _ held _ run =>
    rcases run_bind_adapt run with ⟨e, -, rfl⟩ | ⟨_, m, copied, rest⟩
    · cases result
    · have frame := (Touches.copyFile source _).after links (.faults _ w faults) copied
      rcases run_bind_adapt rest with ⟨e, -, rfl⟩ | ⟨old, m', done, rest⟩
      · cases result
      · obtain ⟨rfl, known⟩ := run_readFile done
        have seen := known old rfl
        split at rest
        · rename_i same
          obtain ⟨rfl, rfl⟩ := run_pure rest
          cases result
          exact ⟨rfl, bytes, held, same ▸ holds_backup (frame.disk.links links) (frame.disk.device device) seen⟩
        · obtain ⟨rfl, -⟩ := run_throw rest
          cases result

/-! ## Writing the files -/

/-- Files that are in their places, without leftovers. -/
structure Written (outDir : Path) (w : World) (done : List GeneratedFile) : Prop where
  holds : ∀ f ∈ done, w.Holds (target outDir f) (Utf8.encode f.content)
  clean : ∀ f ∈ done, w.content? (tempPath (target outDir f)) = none

theorem Written.nil (outDir : Path) (w : World) : Written outDir w [] :=
  ⟨by simp, by simp⟩

theorem Written.frame {done : List GeneratedFile} {touched : List Location} (written : Written outDir w done)
    (links : w.disk.LinkFree) (frame : w.Frame touched w')
    (targets : ∀ f ∈ done, (target outDir f).locationFrom w.cwd ∉ touched)
    (temps : ∀ f ∈ done, (tempPath (target outDir f)).locationFrom w.cwd ∉ touched) : Written outDir w' done where
  holds f member := frame.holds links (targets f member) (written.holds f member)
  clean f member := (frame.content? (temps f member)).trans (written.clean f member)

/-- The paths that are touched when some files are put in their places and others are tried. -/
def filePaths (outDir : Path) (done tried : List GeneratedFile) : List Path :=
  done.map (target outDir) ++ tried.map fun f => tempPath (target outDir f)

theorem filePaths_subset {done done' tried tried' : List GeneratedFile} (more : done ⊆ done') (more' : tried ⊆ tried') :
    filePaths outDir done tried ⊆ filePaths outDir done' tried' :=
  List.append_subset.mpr ⟨List.subset_append_of_subset_left _ (List.map_subset _ more),
    List.subset_append_of_subset_right _ (List.map_subset _ more')⟩

theorem notMem_filePaths {cwd l : Location} {done tried : List GeneratedFile}
    (targets : ∀ f ∈ done, (target outDir f).locationFrom cwd ≠ l)
    (temps : ∀ f ∈ tried, (tempPath (target outDir f)).locationFrom cwd ≠ l) :
    l ∉ (filePaths outDir done tried).map (Path.locationFrom cwd) := by
  simp only [filePaths, List.map_append, List.map_map, List.mem_append, List.mem_map, not_or, not_exists, not_and]
  exact ⟨targets, temps⟩

theorem touches_writeAll (outDir : Path) (written : List Path) (files : List GeneratedFile) :
    (writeAll outDir written files).Touches (filePaths outDir files files) := by
  induction files generalizing written with
  | nil => exact .pure _ _
  | cons f fs ih =>
    have later : fs ⊆ f :: fs := List.subset_cons_self f fs
    exact .bind (.adapt _ ((touches_replaceFile _ _).mono (by simp [filePaths]))) fun _ =>
      (ih _).mono (filePaths_subset later later)

/-- Files are written one after the other up to the first that fails. Later files do not disturb earlier ones, as no
target or temporary path of theirs is a target or temporary path of another file. -/
theorem writeAll_run {cwd : Location} (here : w.cwd = cwd) (links : w.disk.LinkFree) (device : w.disk.DeviceInPlace)
    (nodup : (files.map fun f => (target outDir f).locationFrom cwd).Nodup)
    (apart : ∀ f ∈ files, ∀ g ∈ files,
      (tempPath (target outDir f)).locationFrom cwd ≠ (target outDir g).locationFrom cwd)
    {written : List Path} {r : Except CommitError (List Path)}
    (run : (writeAll outDir written files).run w = (r, w')) :
    ∃ done left, files = done ++ left ∧ Written outDir w' done ∧
      w.Frame ((filePaths outDir done files).map (Path.locationFrom cwd)) w' ∧
      ((∃ e, r = .error ⟨e, written ++ done.map (target outDir)⟩) ∨
        left = [] ∧ r = .ok (written ++ done.map (target outDir))) := by
  induction files generalizing written w with
  | nil =>
    obtain ⟨rfl, rfl⟩ := run_pure run
    exact ⟨[], [], rfl, .nil _ _, .refl _ _, .inr ⟨rfl, by simp⟩⟩
  | cons f fs ih =>
    rcases run_bind_adapt run with ⟨e, failed, rfl⟩ | ⟨_, m, replaced, rest⟩
    · obtain ⟨-, frame⟩ | ⟨same, -⟩ := replaceFile_cases links failed
      · exact ⟨[], f :: fs, rfl, .nil _ _, frame.mono (by simp [filePaths, here]), .inl ⟨e, by simp⟩⟩
      · cases same
    · have frame := touches_replaceFile _ _ w _ m links replaced
      obtain ⟨holds, gone⟩ := replaceFile_done links device replaced
      obtain ⟨fresh, nodup⟩ := List.nodup_cons.mp nodup
      have there := frame.cwd.trans here
      obtain ⟨done, left, rfl, others, frame', ends⟩ :=
        ih there (frame.disk.links links) (frame.disk.device device) nodup
          (fun g member g' member' => apart g (List.mem_cons_of_mem _ member) g' (List.mem_cons_of_mem _ member')) rest
      have differs (g : GeneratedFile) (member : g ∈ done ++ left) :
          (target outDir g).locationFrom cwd ≠ (target outDir f).locationFrom cwd :=
        fun same => fresh (List.mem_map.mpr ⟨g, member, same⟩)
      -- the first file is in its place after its own replacement, and stays there in the frame of the others
      have first : Written outDir w' [f] := by
        refine Written.frame (w := m) ⟨by simpa using holds, by simpa using gone⟩ (frame.disk.links links) frame' ?_ ?_
        · rw [List.forall_mem_singleton, there]
          refine notMem_filePaths (fun g member => differs g (List.mem_append_left _ member)) fun g member => ?_
          exact apart g (List.mem_cons_of_mem _ member) f List.mem_cons_self
        · rw [List.forall_mem_singleton, there]
          refine notMem_filePaths (fun g member => ?_) fun g member same => ?_
          · exact (apart f List.mem_cons_self g (List.mem_cons_of_mem _ (List.mem_append_left _ member))).symm
          · exact differs g member (locationFrom_of_temp same)
      refine ⟨f :: done, left, rfl, ⟨?_, ?_⟩, ?_, by simpa using ends⟩
      · exact List.forall_mem_cons.mpr ⟨first.holds f (by simp), others.holds⟩
      · exact List.forall_mem_cons.mpr ⟨first.clean f (by simp), others.clean⟩
      · rw [here] at frame
        refine (frame.mono (List.map_subset _ ?_)).trans (frame'.mono (List.map_subset _ ?_))
        · simp [filePaths]
        · exact filePaths_subset (List.subset_cons_self _ _) (List.subset_cons_self _ _)

/-! ## Commits -/

/-- How a commit ends: where it breaks off, or that it is done. -/
inductive Ends (force : Bool) (source outDir : Path) (files : List GeneratedFile) (root : Text) (w : World) :
    Except CommitError CommitReport → World → Prop
  | refused {e : WriteError} (collides : checkDistinct w.cwd source outDir files = .error e) :
      Ends force source outDir files root w (.error ⟨e, []⟩) w
  | unsaved {e : WriteError} {w' : World} (accepted : checkDistinct w.cwd source outDir files = .ok ())
      (failed : (saveBackup force source).run w = (.error e, w')) :
      Ends force source outDir files root w (.error ⟨e, []⟩) w'
  | unwritten {e : CommitError} {backup : Path} {m w' : World}
      (accepted : checkDistinct w.cwd source outDir files = .ok ())
      (saved : (saveBackup force source).run w = (.ok backup, m))
      (failed : (writeAll outDir [] files).run m = (.error e, w')) :
      Ends force source outDir files root w (.error e) w'
  | unreplaced {e : WriteError} {backup : Path} {written : List Path} {m m' w' : World}
      (accepted : checkDistinct w.cwd source outDir files = .ok ())
      (saved : (saveBackup force source).run w = (.ok backup, m))
      (wrote : (writeAll outDir [] files).run m = (.ok written, m'))
      (failed : (replaceFile source (Utf8.encode root)).run m' = (.error e, w')) :
      Ends force source outDir files root w (.error ⟨e, written⟩) w'
  | done {backup : Path} {written : List Path} {m m' w' : World}
      (accepted : checkDistinct w.cwd source outDir files = .ok ())
      (saved : (saveBackup force source).run w = (.ok backup, m))
      (wrote : (writeAll outDir [] files).run m = (.ok written, m'))
      (replaced : (replaceFile source (Utf8.encode root)).run m' = (.ok (), w')) :
      Ends force source outDir files root w (.ok { backup, written, root := source }) w'

theorem perform_ends {force : Bool} {root : Text} {r : Except CommitError CommitReport}
    (run : (perform force source outDir files root).run w = (r, w')) :
    Ends force source outDir files root w r w' := by
  rcases run_bind_adapt run with ⟨e, checked, rfl⟩ | ⟨_, m, checked, rest⟩
  · obtain ⟨collides, rfl⟩ := run_inspect checked
    exact .refused collides.symm
  · obtain ⟨accepted, rfl⟩ := run_inspect checked
    rcases run_bind_adapt rest with ⟨e, failed, rfl⟩ | ⟨backup, m, saved, rest⟩
    · exact .unsaved accepted.symm failed
    · rcases run_bind rest with ⟨e, failed, rfl⟩ | ⟨written, m', wrote, rest⟩
      · exact .unwritten accepted.symm saved failed
      · rcases run_bind_adapt rest with ⟨e, failed, rfl⟩ | ⟨_, m'', replaced, rest⟩
        · exact .unreplaced accepted.symm saved wrote failed
        · obtain ⟨rfl, rfl⟩ := run_pure rest
          exact .done accepted.symm saved wrote replaced

/-- What a commit does once the source is saved. -/
def writeOut (source outDir : Path) (files : List GeneratedFile) (root : Text) (backup : Path) :
    Effect CommitError CommitReport := do
  let written ← writeAll outDir [] files
  adapt (CommitError.mk · written) (replaceFile source (Utf8.encode root))
  return { backup, written, root := source }

theorem touches_writeOut (source outDir : Path) (files : List GeneratedFile) (root : Text) (backup : Path) :
    (writeOut source outDir files root backup).Touches
      (places source outDir files ++ (places source outDir files).map tempPath) := by
  refine .bind ((touches_writeAll outDir [] files).mono ?_) fun _ => ?_
  · rw [filePaths, places, List.map_cons, List.map_map]
    refine List.append_subset.mpr ⟨fun p member => ?_, fun p member => ?_⟩
    · exact List.mem_append_left _ (List.mem_cons_of_mem _ member)
    · exact List.mem_append_right _ (List.mem_cons_of_mem _ member)
  · exact .bind (.adapt _ ((touches_replaceFile _ _).mono (by simp [places]))) fun _ => .pure _ _

theorem touches_perform (force : Bool) (source outDir : Path) (files : List GeneratedFile) (root : Text) :
    (perform force source outDir files root).Touches (writtenPaths source outDir files) := by
  refine .bind (.adapt _ (.inspect _ _)) fun _ => ?_
  refine .bind (.adapt _ ((touches_saveBackup force source).mono (by simp [writtenPaths]))) fun backup => ?_
  refine (touches_writeOut source outDir files root backup).mono ?_
  exact List.append_subset.mpr ⟨List.subset_append_left _ _,
    List.subset_append_of_subset_right _ (List.subset_cons_self _ _)⟩

/-! ## Putting the source back -/

theorem touches_restore (source : Path) : (restore source).Touches [source, tempPath source] := by
  refine .bind (.query _ _ _) fun found => ?_
  cases found with
  | false => exact .throw _ _
  | true => exact .bind (.adapt _ (.look _ _)) fun bytes => .bind (touches_replaceFile source bytes) fun _ => .pure _ _

end Cleave.Commit
