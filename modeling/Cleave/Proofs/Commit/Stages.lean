import Cleave.Proofs.Commit.Run

/-!
# Where a commit fails

The steps of a commit raise errors of different kinds, so an error tells the step it comes from: the check of the
targets, the saving of the source, or the replacement of a file. The check refuses a target for the source, the backup
or a target before it (`checkDistinct_eq_error`). A commit has saved its source exactly if it succeeds or fails at a
replacement (`pastBackup_iff`), and one that is refused has not written anything (`perform_refused`).
-/

namespace Cleave

namespace Effect

variable {ε ε' α β : Type} {kind : ε → Prop}

/-- However it ends, the action raises no errors but those of one kind. -/
def Raises (a : Effect ε α) (kind : ε → Prop) : Prop :=
  ∀ w e w', a.run w = (.error e, w') → kind e

namespace Raises

variable {a : Effect ε α} {f : α → Effect ε β}

theorem pure (x : α) : (Pure.pure x : Effect ε α).Raises kind := by
  intro w e w' run
  cases (run_pure run).1

theorem throw {e : ε} (fits : kind e) : (MonadExcept.throw e : Effect ε α).Raises kind := by
  intro w e' w' run
  cases (run_throw run).1
  exact fits

theorem bind (first : a.Raises kind) (second : ∀ x, (f x).Raises kind) : (a >>= f).Raises kind := by
  intro w e w' run
  rcases run_bind run with ⟨e, failed, same⟩ | ⟨x, m, -, rest⟩
  · cases same
    exact first w e w' failed
  · exact second x m e w' rest

theorem adapt {g : ε' → ε} {kind' : ε' → Prop} {a : Effect ε' α} (raises : a.Raises kind')
    (fits : ∀ e, kind' e → kind (g e)) : (adapt g a).Raises kind := by
  intro w e w' run
  obtain ⟨s, inner, same⟩ := run_adapt run
  cases s with
  | error e' =>
    cases same
    exact fits e' (raises w e' w' inner)
  | ok x => cases same

theorem any (a : Effect ε α) : a.Raises fun _ => True :=
  fun _ _ _ _ => trivial

theorem result (a : Effect ε' α) : (result a : Effect ε (Except ε' α)).Raises kind := by
  intro w e w' run
  obtain ⟨s, -, same⟩ := run_result run
  cases same

theorem present (p : Path) : (present p : Effect ε Bool).Raises kind := by
  intro w e w' run
  obtain ⟨answer, same, -⟩ := run_query run
  cases same

end Raises

end Effect

/-- The steps that write errors come from. -/
inductive WriteStage
  | checking
  | saving
  | replacing
  | restoring
  deriving DecidableEq, Repr

namespace WriteError

/-- The step of a commit or a restore that raises an error. -/
def stage : WriteError → WriteStage
  | collision .. => .checking
  | resolve .. => .checking
  | backup .. => .saving
  | backupMismatch _ => .saving
  | backupExists _ => .saving
  | createDir .. => .replacing
  | write .. => .replacing
  | missingBackup _ => .restoring

/-- Whether an error refuses to write: files collide, a path leads nowhere, or there is another backup. -/
def isRefusal : WriteError → Bool
  | collision .. => true
  | resolve .. => true
  | backupExists _ => true
  | _ => false

theorem isRefusal_of_replacing {e : WriteError} (replacing : e.stage = .replacing) : e.isRefusal = false := by
  cases e with
  | createDir path cause => rfl
  | write path cause => rfl
  | _ => cases replacing

end WriteError

namespace Commit

open Effect

variable {w w' : World} {source outDir p : Path} {files : List GeneratedFile} {force : Bool} {root : Text}

/-! ## The errors of each step -/

theorem bind_eq_error {ε α β : Type} {x : Except ε α} {f : α → Except ε β} {e : ε} (failed : x >>= f = .error e) :
    x = .error e ∨ ∃ a, x = .ok a ∧ f a = .error e := by
  cases x with
  | error e' => exact .inl (congrArg _ (Except.error.inj failed))
  | ok a => exact .inr ⟨a, rfl, failed⟩

theorem resolve_eq_error {cwd : Location} {e : WriteError} (failed : resolve cwd p = .error e) :
    p.text = [] ∧ e = .resolve p .emptyPath := by
  simp only [resolve, Path.resolve?] at failed
  by_cases empty : p.text = []
  · simp only [empty, if_true] at failed
    exact ⟨empty, (Except.error.inj failed).symm⟩
  · simp [empty] at failed

/-- Why a target is refused after the locations that were seen before it. -/
inductive Refuses (cwd : Location) (source : Path) (sourceAt backupAt : Location) (seen : List Location)
    (path : Path) : WriteError → Prop
  | unresolved (empty : path.text = []) : Refuses cwd source sourceAt backupAt seen path (.resolve path .emptyPath)
  | atSource (same : path.locationFrom cwd = sourceAt) :
    Refuses cwd source sourceAt backupAt seen path (.collision path source)
  | atBackup (same : path.locationFrom cwd = backupAt) :
    Refuses cwd source sourceAt backupAt seen path (.collision path (backupPath source))
  | again (old : path.locationFrom cwd ∈ seen) :
    Refuses cwd source sourceAt backupAt seen path (.collision path (.ofLocation (path.locationFrom cwd)))

theorem Refuses.stage {cwd sourceAt backupAt : Location} {seen : List Location} {e : WriteError}
    (refused : Refuses cwd source sourceAt backupAt seen p e) : e.stage = .checking := by
  cases refused <;> rfl

/-- A check that fails refuses one of the targets, and has seen exactly those before it. -/
theorem checkFrom_eq_error {cwd sourceAt backupAt : Location} {seen : List Location} {e : WriteError}
    (failed : checkFrom cwd source outDir sourceAt backupAt seen files = .error e) :
    ∃ before f after, files = before ++ f :: after ∧
      Refuses cwd source sourceAt backupAt (seen ++ before.map fun g => (target outDir g).locationFrom cwd)
        (target outDir f) e := by
  induction files generalizing seen with
  | nil => cases failed
  | cons f fs ih =>
    rcases bind_eq_error failed with unresolved | ⟨place, found, failed⟩
    · obtain ⟨empty, rfl⟩ := resolve_eq_error unresolved
      exact ⟨[], f, fs, rfl, .unresolved empty⟩
    · obtain ⟨-, rfl⟩ := resolve_eq_ok found
      split at failed
      · rename_i same
        cases failed
        exact ⟨[], f, fs, rfl, .atSource same⟩
      · split at failed
        · rename_i same
          cases failed
          exact ⟨[], f, fs, rfl, .atBackup same⟩
        · split at failed
          · rename_i old
            cases failed
            exact ⟨[], f, fs, rfl, .again (by simpa using old)⟩
          · obtain ⟨before, g, after, rfl, refused⟩ := ih failed
            exact ⟨f :: before, g, after, rfl, by simpa using refused⟩

/-- The check fails because the source has no location, or because it refuses one of the targets. -/
theorem checkDistinct_eq_error {cwd : Location} {e : WriteError}
    (failed : checkDistinct cwd source outDir files = .error e) :
    (source.text = [] ∧ e = .resolve source .emptyPath) ∨ ∃ before f after, files = before ++ f :: after ∧
      Refuses cwd source (source.locationFrom cwd) ((backupPath source).locationFrom cwd)
        (before.map fun g => (target outDir g).locationFrom cwd) (target outDir f) e := by
  rcases bind_eq_error failed with unresolved | ⟨sourceAt, found, failed⟩
  · exact .inl (resolve_eq_error unresolved)
  · obtain ⟨-, rfl⟩ := resolve_eq_ok found
    rcases bind_eq_error failed with unresolved | ⟨backupAt, found, failed⟩
    · have empty := (resolve_eq_error unresolved).1
      simp [backupPath, Path.append] at empty
    · obtain ⟨-, rfl⟩ := resolve_eq_ok found
      exact .inr (by simpa using checkFrom_eq_error failed)

theorem checkDistinct_stage {cwd : Location} {e : WriteError}
    (failed : checkDistinct cwd source outDir files = .error e) : e.stage = .checking := by
  rcases checkDistinct_eq_error failed with ⟨-, rfl⟩ | ⟨before, f, after, -, refused⟩
  · rfl
  · exact refused.stage

theorem raises_makeBackup (source : Path) (bytes : Bytes) :
    (makeBackup source bytes).Raises fun e => e.stage = .saving ∧ e.isRefusal = false := by
  refine .bind (.adapt (.any _) fun _ _ => ⟨rfl, rfl⟩) fun _ => ?_
  refine .bind (.adapt (.any _) fun _ _ => ⟨rfl, rfl⟩) fun copied => ?_
  split
  · exact .pure _
  · exact .throw ⟨rfl, rfl⟩

theorem raises_saveBackup (force : Bool) (source : Path) :
    (saveBackup force source).Raises fun e => e.stage = .saving := by
  have making (bytes : Bytes) : (makeBackup source bytes).Raises fun e => e.stage = .saving :=
    fun w e w' run => (raises_makeBackup source bytes w e w' run).1
  rw [saveBackup_eq]
  refine .bind (.adapt (.any _) fun _ _ => rfl) fun bytes => .bind (.present _) fun found => ?_
  split
  · refine .bind (.adapt (.any _) fun _ _ => rfl) fun old => ?_
    split
    · exact .pure _
    · split
      · exact making bytes
      · exact .throw rfl
  · exact making bytes

theorem raises_replaceFile (p : Path) (content : Bytes) :
    (replaceFile p content).Raises fun e => e.stage = .replacing := by
  have parent : (ensureParent p).Raises fun e => e.stage = .replacing := by
    rw [ensureParent]
    split
    · exact .pure _
    · split
      · exact .pure _
      · exact .adapt (.any _) fun _ _ => rfl
  refine .bind parent fun _ => .bind (.result _) fun written => ?_
  cases written with
  | error e => exact .bind (.result _) fun _ => .throw rfl
  | ok _ =>
    refine .bind (.result _) fun moved => ?_
    cases moved with
    | error e => exact .bind (.result _) fun _ => .throw rfl
    | ok _ => exact .pure _

theorem raises_writeAll (outDir : Path) (written : List Path) (files : List GeneratedFile) :
    (writeAll outDir written files).Raises fun e => e.error.stage = .replacing := by
  induction files generalizing written with
  | nil => exact .pure _
  | cons f fs ih => exact .bind (.adapt (raises_replaceFile _ _) fun _ late => late) fun _ => ih _

theorem raises_writeOut (source outDir : Path) (files : List GeneratedFile) (root : Text) (backup : Path) :
    (writeOut source outDir files root backup).Raises fun e => e.error.stage = .replacing := by
  refine .bind (raises_writeAll outDir [] files) fun written => ?_
  exact .bind (.adapt (raises_replaceFile _ _) fun _ late => late) fun _ => .pure _

/-! ## Commits -/

/-- A commit got past its backup: it succeeded, or a file of a group or the root could not be put in its place. -/
def PastBackup : Except CommitError CommitReport → Prop
  | .ok _ => True
  | .error e => e.error.stage = .replacing

/-- The result of a commit tells whether the source was saved. -/
theorem pastBackup_iff {r : Except CommitError CommitReport}
    (run : (perform force source outDir files root).run w = (r, w')) :
    PastBackup r ↔ checkDistinct w.cwd source outDir files = .ok () ∧ ∃ backup m,
      (saveBackup force source).run w = (.ok backup, m) ∧
        (writeOut source outDir files root backup).run m = (r, w') := by
  rcases run_bind_adapt run with ⟨e, checked, rfl⟩ | ⟨_, m, checked, rest⟩
  · obtain ⟨collides, rfl⟩ := run_inspect checked
    have early : e.stage = .checking := checkDistinct_stage collides.symm
    refine ⟨fun late => ?_, fun ⟨accepted, _⟩ => ?_⟩
    · cases early.symm.trans late
    · cases collides.trans accepted
  · obtain ⟨accepted, rfl⟩ := run_inspect checked
    rcases run_bind_adapt rest with ⟨e, failed, rfl⟩ | ⟨backup, m, saved, rest⟩
    · have early : e.stage = .saving := raises_saveBackup force source _ e w' failed
      refine ⟨fun late => ?_, fun ⟨_, backup, m, saved, _⟩ => ?_⟩
      · cases early.symm.trans late
      · cases failed.symm.trans saved
    · refine ⟨fun _ => ⟨accepted.symm, backup, m, saved, rest⟩, fun _ => ?_⟩
      cases r with
      | ok report => trivial
      | error e => exact raises_writeOut source outDir files root backup m e w' rest

/-- A source that is not saved because there is another backup is left as it is, and so is everything else. -/
theorem saveBackup_refused {e : WriteError} (refuses : e.isRefusal = true)
    (run : (saveBackup force source).run w = (.error e, w')) : w'.disk = w.disk := by
  generalize result : Except.error e = r at run
  cases saveBackup_saves run with
  | givenUp e' faults => rfl
  | kept faults _ _ => cases result
  | @made bytes faults _ _ _ _ run =>
    cases result
    have other := (raises_makeBackup source bytes _ e w' run).2
    rw [refuses] at other
    cases other

/-- A commit that is refused leaves the disk as it is. -/
theorem perform_refused {e : CommitError} (refuses : e.error.isRefusal = true)
    (run : (perform force source outDir files root).run w = (.error e, w')) : w'.disk = w.disk := by
  have early : e.error.stage ≠ .replacing := by
    intro late
    rw [WriteError.isRefusal_of_replacing late] at refuses
    cases refuses
  rcases run_bind_adapt run with ⟨e', checked, -⟩ | ⟨_, m, checked, rest⟩
  · rw [(run_inspect checked).2]
  · obtain ⟨-, rfl⟩ := run_inspect checked
    rcases run_bind_adapt rest with ⟨e', failed, same⟩ | ⟨backup, m, saved, rest⟩
    · cases same
      exact saveBackup_refused refuses failed
    · exact absurd (raises_writeOut source outDir files root backup m e w' rest) early

end Commit

end Cleave
