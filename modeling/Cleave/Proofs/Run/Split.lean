import Cleave.Run
import Cleave.Proofs.Commit.Stages
import Cleave.Proofs.Plan.Partition
import Cleave.Proofs.Plan.Root

/-!
# Splits that write nothing

A split settles everything but the commit before it writes: it reads and plans the source and checks the targets
(`prepare`), and this does not depend on whether the split is a dry run. So a dry run fails only where the split
itself fails, and says of the plan what the split says (`dry_run_predicts_split`).
-/

namespace Cleave

open Effect Commit

/-- Whether an error refuses to write: the source cannot be read, files collide, a path leads nowhere, or there is
another backup. -/
def RunError.isRefusal : RunError → Bool
  | unreadable .. => true
  | refused _ error => error.isRefusal
  | aborted _ error => error.error.isRefusal

/-- Two reports say the same about what is found and where it goes. -/
structure Report.Agrees (r s : Report) : Prop where
  extracted : r.extracted = s.extracted
  groups : r.groups = s.groups
  retained : r.retained = s.retained
  unmatched : r.unmatched = s.unmatched
  failures : r.failures = s.failures
  scanFailures : r.scanFailures = s.scanFailures
  aggregator : r.aggregator = s.aggregator

/-- A plan without groups is one that extracts nothing, as no group is empty. -/
theorem Engine.isNoop_plan_iff (e : Engine) (d : Document) (layout : Layout) :
    (e.plan d layout).isNoop = true ↔ (e.plan d layout).extracted = 0 := by
  have sorted := Grouped.sorted_ofSpans e.table (e.patterns.scan d).declarations
  rw [Plan.isNoop, Plan.extracted, List.isEmpty_iff]
  refine ⟨fun none => by simp [none, total], fun zero => ?_⟩
  cases found : (e.group (e.patterns.scan d)).groups with
  | nil => simp [Engine.plan, found]
  | cons g gs =>
    have some := sorted.spans_ne_nil (found ▸ List.mem_cons_self : g ∈ (e.group (e.patterns.scan d)).groups)
    simp [Engine.plan, found, planGroup, DomainGroup.names, some] at zero

namespace Run

variable {checker : Checker} {e : Engine} {profile : Text} {source outDir : Path} {options : RunOptions}
  {w w' : World}

/-- What a split settles before it writes. -/
def prepare (e : Engine) (source outDir : Path) : Effect RunError Plan := do
  let (_, plan) ← Run.plan e source outDir
  if plan.isNoop then return plan
  adapt (.refused source) (inspect fun w => checkDistinct w.cwd source outDir plan.files)
  return plan

/-- Planning the source reads it and does nothing else. -/
theorem plan_world {r : Except RunError (Document × Plan)} (run : (Run.plan e source outDir).run w = (r, w')) :
    w' = w.next := by
  rcases run_bind_adapt run with ⟨e, failed, -⟩ | ⟨text, m, done, rest⟩
  · exact (run_readText failed).1
  · obtain ⟨rfl, -⟩ := run_readText done
    exact (run_inspect rest).2

/-- What is planned is the text of the source. -/
theorem plan_reads {d : Document} {plan : Plan} (run : (Run.plan e source outDir).run w = (.ok (d, plan), w')) :
    ∃ text, w.text? source = some text ∧ d = .ofText source text ∧
      plan = e.plan d (layout w.cwd source outDir) := by
  rcases run_bind_adapt run with ⟨e, -, failed⟩ | ⟨text, m, done, rest⟩
  · cases failed
  · obtain ⟨rfl, known⟩ := run_readText done
    obtain ⟨same, -⟩ := run_inspect rest
    cases same
    exact ⟨text, known text rfl, rfl, rfl⟩

theorem prepare_world {r : Except RunError Plan} (run : (prepare e source outDir).run w = (r, w')) : w' = w.next := by
  rcases run_bind run with ⟨e, planned, -⟩ | ⟨⟨document, plan⟩, m, planned, rest⟩
  · exact plan_world planned
  · obtain rfl := plan_world planned
    dsimp only at rest
    split at rest
    · exact (run_pure rest).2
    · rcases run_bind_adapt rest with ⟨e, checked, -⟩ | ⟨_, m, checked, rest⟩
      · exact (run_inspect checked).2
      · obtain ⟨-, rfl⟩ := run_inspect checked
        exact (run_pure rest).2

theorem prepare_reads {plan : Plan} (run : (prepare e source outDir).run w = (.ok plan, w')) :
    ∃ text, w.text? source = some text ∧ plan = e.plan (.ofText source text) (layout w.cwd source outDir) := by
  rcases run_bind run with ⟨e, -, failed⟩ | ⟨⟨document, plan'⟩, m, planned, rest⟩
  · cases failed
  · have returned : plan = plan' := by
      dsimp only at rest
      split at rest
      · exact Except.ok.inj (run_pure rest).1
      · rcases run_bind_adapt rest with ⟨e, -, failed⟩ | ⟨_, m, -, rest⟩
        · cases failed
        · exact Except.ok.inj (run_pure rest).1
    obtain ⟨text, known, rfl, planned⟩ := plan_reads planned
    exact ⟨text, known, returned.trans planned⟩

/-- What a split does with the plan that it has prepared: it commits it between the checks, unless there is nothing
to write. -/
def carryOut (checker : Checker) (profile : Text) (source outDir : Path) (options : RunOptions) (plan : Plan) :
    Effect RunError Report := do
  let report := Report.ofPlan source outDir profile options.dryRun plan
  if plan.isNoop || options.dryRun then return report
  let before ← check checker (checkDir source) options.check
  let done ← adapt (.aborted source)
    (perform options.forceBackup source outDir plan.files plan.root.content)
  let after ← check checker (checkDir source) options.check
  return { report with
    groupsWritten := done.written.length
    backup := some done.backup
    written := done.written
    verification := verification? before after }

theorem split_eq_bind (checker : Checker) (e : Engine) (profile : Text) (source outDir : Path) (options : RunOptions) :
    Run.split checker e profile source outDir options =
      prepare e source outDir >>= carryOut checker profile source outDir options := by
  rw [Run.split, prepare, bind_assoc]
  refine bind_congr fun ⟨_, plan⟩ => ?_
  dsimp only
  cases idle : plan.isNoop with
  | true => simp [carryOut, idle]
  | false => simp [carryOut, idle]

/-- A split without checks prepares, and then commits unless there is nothing to write. -/
theorem split_eq (unchecked : options.check = none) :
    Run.split checker e profile source outDir options = do
      let plan ← prepare e source outDir
      let report := Report.ofPlan source outDir profile options.dryRun plan
      if plan.isNoop || options.dryRun then return report
      let done ← adapt (.aborted source)
        (perform options.forceBackup source outDir plan.files plan.root.content)
      return { report with
        groupsWritten := done.written.length, backup := some done.backup, written := done.written } := by
  rw [split_eq_bind]
  refine bind_congr fun plan => ?_
  rw [carryOut, unchecked]
  rfl

/-- How a split without checks ends: it stops before it writes, it has nothing to write, or its commit has the last
word. -/
inductive Ends (e : Engine) (profile : Text) (source outDir : Path) (options : RunOptions) (w : World) :
    Except RunError Report → World → Prop
  | stopped {err : RunError} (prepared : (prepare e source outDir).run w = (.error err, w.next)) :
    Ends e profile source outDir options w (.error err) w.next
  | previewed {plan : Plan} (prepared : (prepare e source outDir).run w = (.ok plan, w.next))
    (idle : plan.isNoop || options.dryRun) :
    Ends e profile source outDir options w (.ok (.ofPlan source outDir profile options.dryRun plan)) w.next
  | aborted {plan : Plan} {err : CommitError} {w' : World}
    (prepared : (prepare e source outDir).run w = (.ok plan, w.next)) (busy : ¬(plan.isNoop || options.dryRun))
    (run : (perform options.forceBackup source outDir plan.files plan.root.content).run w.next = (.error err, w')) :
    Ends e profile source outDir options w (.error (.aborted source err)) w'
  | committed {plan : Plan} {done : CommitReport} {w' : World}
    (prepared : (prepare e source outDir).run w = (.ok plan, w.next)) (busy : ¬(plan.isNoop || options.dryRun))
    (run : (perform options.forceBackup source outDir plan.files plan.root.content).run w.next = (.ok done, w')) :
    Ends e profile source outDir options w
      (.ok { Report.ofPlan source outDir profile options.dryRun plan with
        groupsWritten := done.written.length, backup := some done.backup, written := done.written }) w'

theorem ends_split {r : Except RunError Report} (unchecked : options.check = none)
    (run : (Run.split checker e profile source outDir options).run w = (r, w')) :
    Ends e profile source outDir options w r w' := by
  rw [split_eq unchecked] at run
  rcases run_bind run with ⟨err, prepared, rfl⟩ | ⟨plan, m, prepared, rest⟩
  · obtain rfl := prepare_world prepared
    exact .stopped prepared
  · obtain rfl := prepare_world prepared
    dsimp only at rest
    split at rest
    · rename_i idle
      obtain ⟨rfl, rfl⟩ := run_pure rest
      exact .previewed prepared idle
    · rename_i busy
      rcases run_bind_adapt rest with ⟨err, failed, rfl⟩ | ⟨done, m, committed, rest⟩
      · exact .aborted prepared busy failed
      · obtain ⟨rfl, rfl⟩ := run_pure rest
        exact .committed prepared busy committed

/-- The source is planned, and the plan extracts nothing. -/
def ExtractsNothing (e : Engine) (source outDir : Path) (w : World) : Prop :=
  ∃ d plan m, (Run.plan e source outDir).run w = (.ok (d, plan), m) ∧ plan.extracted = 0

theorem prepare_of_extractsNothing (nothing : ExtractsNothing e source outDir w) :
    ∃ plan, plan.isNoop = true ∧ (prepare e source outDir).run w = (.ok plan, w.next) := by
  obtain ⟨d, plan, m, planned, zero⟩ := nothing
  have idle : plan.isNoop = true := by
    obtain ⟨text, -, -, rfl⟩ := plan_reads planned
    exact (e.isNoop_plan_iff _ _).mpr zero
  cases read : (prepare e source outDir).run w with
  | mk r w' =>
    rcases run_bind read with ⟨err, failed, -⟩ | ⟨⟨_, _⟩, m', again, rest⟩
    · cases failed.symm.trans planned
    · cases again.symm.trans planned
      obtain rfl := plan_world planned
      dsimp only at rest
      rw [if_pos idle] at rest
      obtain ⟨rfl, rfl⟩ := run_pure rest
      exact ⟨_, idle, rfl⟩

namespace Ends

variable {r s : Except RunError Report} {w'' : World}

/-- A split that has nothing to write, or is refused, leaves the disk as it is. -/
theorem disk_eq (ends : Ends e profile source outDir options w r w')
    (reason : options.dryRun = true ∨ ExtractsNothing e source outDir w ∨
      ∃ err, r = .error err ∧ err.isRefusal = true) : w'.disk = w.disk := by
  have idle {plan : Plan} (prepared : (prepare e source outDir).run w = (.ok plan, w.next))
      (still : options.dryRun = true ∨ ExtractsNothing e source outDir w) : plan.isNoop || options.dryRun := by
    rcases still with dry | nothing
    · rw [dry, Bool.or_true]
    · obtain ⟨plan', noop, again⟩ := prepare_of_extractsNothing nothing
      cases prepared.symm.trans again
      rw [noop, Bool.true_or]
  cases ends with
  | stopped _ => rfl
  | previewed _ _ => rfl
  | aborted prepared busy run =>
    rcases reason with dry | nothing | ⟨err, same, refuses⟩
    · exact absurd (idle prepared (.inl dry)) busy
    · exact absurd (idle prepared (.inr nothing)) busy
    · cases same
      exact perform_refused (w := w.next) refuses run
  | committed prepared busy run =>
    rcases reason with dry | nothing | ⟨err, same, -⟩
    · exact absurd (idle prepared (.inl dry)) busy
    · exact absurd (idle prepared (.inr nothing)) busy
    · cases same

/-- A dry run fails only where any other split fails. -/
theorem error_of_dryRun {err : RunError}
    (dry : Ends e profile source outDir { options with dryRun := true } w (.error err) w')
    (real : Ends e profile source outDir { options with dryRun := false } w s w'') : s = .error err := by
  cases dry with
  | stopped prepared =>
    cases real with
    | stopped again => exact congrArg _ (Except.error.inj (Prod.ext_iff.mp (again.symm.trans prepared)).1)
    | previewed again _ => cases again.symm.trans prepared
    | aborted again _ _ => cases again.symm.trans prepared
    | committed again _ _ => cases again.symm.trans prepared
  | aborted _ busy _ => exact absurd (Bool.or_true _) busy

/-- A dry run that succeeds reports what any other split reports that succeeds. -/
theorem agrees_of_dryRun {r s : Report}
    (dry : Ends e profile source outDir { options with dryRun := true } w (.ok r) w')
    (real : Ends e profile source outDir { options with dryRun := false } w (.ok s) w'') : r.Agrees s := by
  cases dry with
  | previewed prepared _ =>
    cases real with
    | previewed again _ =>
      cases again.symm.trans prepared
      exact ⟨rfl, rfl, rfl, rfl, rfl, rfl, rfl⟩
    | committed again _ _ =>
      cases again.symm.trans prepared
      exact ⟨rfl, rfl, rfl, rfl, rfl, rfl, rfl⟩
  | committed _ busy _ => exact absurd (Bool.or_true _) busy

end Ends

/-- Splits that must not write do not write, and a dry run tells how the split would go. Without checks, the disk
stays as it is on a dry run, if nothing is extracted, and if the split is refused. An error of the dry run is the
error of the split, and where both succeed their reports agree. -/
theorem dry_run_predicts_split (checker : Checker) (e : Engine) (profile : Text) (source outDir : Path)
    (options : RunOptions) (w : World) (unchecked : options.check = none) :
    let split (dryRun : Bool) := (Run.split checker e profile source outDir { options with dryRun }).run w
    (∀ r w', (Run.split checker e profile source outDir options).run w = (r, w') →
      options.dryRun = true ∨ ExtractsNothing e source outDir w ∨ (∃ err, r = .error err ∧ err.isRefusal = true) →
        w'.disk = w.disk) ∧
      (∀ err, (split true).1 = .error err → (split false).1 = .error err) ∧
      ∀ dry real, (split true).1 = .ok dry → (split false).1 = .ok real → dry.Agrees real := by
  intro split
  have ends (dryRun : Bool) :
      Ends e profile source outDir { options with dryRun } w (split dryRun).1 (split dryRun).2 :=
    ends_split unchecked rfl
  refine ⟨fun r w' run reason => ?_, fun err failed => ?_, fun dry real previewed done => ?_⟩
  · exact (ends_split unchecked run).disk_eq reason
  · exact (failed ▸ ends true).error_of_dryRun (ends false)
  · exact (previewed ▸ ends true).agrees_of_dryRun (done ▸ ends false)

/-- A disk with the sample text and a backup of another text. -/
def guardedWorld : World where
  disk := { nodes := [(["db.ts".toList], .file (Utf8.encode .sample)), (["db.ts.backup".toList], .file [1])] }

/-- The dry run succeeds where the split is refused for its backup, and agrees with the split that is forced. -/
theorem dry_run_predicts_split_sample :
    let split (dryRun forceBackup : Bool) := (Run.split (fun _ _ => pure (.unknown [])) .sample "sample".toList
      ⟨"db.ts".toList⟩ ⟨"parts".toList⟩ { dryRun, forceBackup }).run guardedWorld
    (split true false).1.isOk = true ∧
      (split false false).1 = .error (.aborted ⟨"db.ts".toList⟩ ⟨.backupExists ⟨"db.ts.backup".toList⟩, []⟩) ∧
      (split false false).2.disk = guardedWorld.disk ∧
      ∃ dry real, (split true true).1 = .ok dry ∧ (split false true).1 = .ok real ∧ dry.groupsWritten = 0 ∧
        real.groupsWritten = 1 ∧ dry.Agrees real := by
  intro split
  have refused : (split false false).1 =
      .error (.aborted ⟨"db.ts".toList⟩ ⟨.backupExists ⟨"db.ts.backup".toList⟩, []⟩) := by
    decide +kernel
  have writes (dryRun : Bool) :
      (split dryRun true).1.map Report.groupsWritten = .ok (if dryRun then 0 else 1) := by
    cases dryRun <;> decide +kernel
  have succeeds {dryRun : Bool} {n : Nat} (counted : (split dryRun true).1.map Report.groupsWritten = .ok n) :
      ∃ report, (split dryRun true).1 = .ok report ∧ report.groupsWritten = n := by
    cases ended : (split dryRun true).1 with
    | error err =>
      rw [ended] at counted
      cases counted
    | ok report =>
      rw [ended] at counted
      exact ⟨report, rfl, Except.ok.inj counted⟩
  obtain ⟨dry, previewed, none⟩ := succeeds (writes true)
  obtain ⟨real, done, one⟩ := succeeds (writes false)
  have plain := dry_run_predicts_split (fun _ _ => pure (.unknown [])) .sample "sample".toList ⟨"db.ts".toList⟩
    ⟨"parts".toList⟩ {} guardedWorld rfl
  have forced := dry_run_predicts_split (fun _ _ => pure (.unknown [])) .sample "sample".toList ⟨"db.ts".toList⟩
    ⟨"parts".toList⟩ { forceBackup := true } guardedWorld rfl
  exact ⟨by decide +kernel, refused, plain.1 _ _ rfl (.inr (.inr ⟨_, refused, rfl⟩)), dry, real, previewed, done,
    none, one, forced.2.2 dry real previewed done⟩

end Run

end Cleave
