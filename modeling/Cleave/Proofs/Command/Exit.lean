import Cleave.Proofs.Check.Verdict
import Cleave.Proofs.Command.Work
import Cleave.Proofs.Run.Report
import Cleave.Shell.Checker

/-!
# How a checked split ends

A split goes through stages: it opens a session, settles on an engine and a check, runs, and concludes with its report
(`work_split`). The report carries two checks exactly if the split has committed between them (`commitsBetween_iff`),
and then the conclusion depends on their verdict alone: the program ends with status 0 exactly if the verdict is clean
(`success_means_clean`).
-/

namespace Cleave.Command

open Effect Work

/-! ## The stages of a split -/

/-- What every command does before it carries out its request. -/
def enter (env : Environment) (common : Common) : Work Unit := do
  let format ← match common.format with
    | some f => pure f
    | none => do pure (← onWorld .settings (Settings.loadUser env.home)).defaultFormat
  modify fun c => { c with format, verbose := common.verbose }
  trace "" "partition starting".toList

/-- What a split settles before it runs: the engine of the profile, and the check if one is asked for. -/
def settle (s : Session) (r : SplitRequest) : Work (Engine × Option CheckCommand) := do
  let e ← s.engine
  if r.check && r.dryRun then
    warn "--check is ignored with --dry-run; nothing is written, so nothing is verified".toList
  let check ← if r.check then do pure (some (← checkCommand s r)) else pure none
  trace "split" (describeSplit r)
  return (e, check)

/-- A split up to its report. -/
def splitReport (env : Environment) (common : Common) (r : SplitRequest) : Work Report := do
  enter env common
  let s ← Session.start env.home common
  let (e, check) ← settle s r
  runSplit env s e r check

/-- What a split does with its report: it prints it, and judges the checks. -/
def conclude (env : Environment) (report : Report) : Work Unit := do
  trace "split" (describeReport report)
  if ← inJson then data (reportValue env.now report) else sayReport report
  judge report

theorem work_eq_bind (env : Environment) (common : Common) (request : Request) :
    work env common request = (do
      enter env common
      carryOut env common request
      trace "" "Command completed successfully".toList) := by
  unfold work enter
  cases common.format with
  | some f => simp only [bind_assoc, pure_bind]
  | none => simp only [bind_assoc, pure_bind]

theorem split_eq_bind (env : Environment) (s : Session) (r : SplitRequest) :
    split env s r = (do
      let (e, check) ← settle s r
      let report ← runSplit env s e r check
      conclude env report) := by
  unfold split settle conclude
  cases r.check with
  | false => simp only [bind_assoc, pure_bind, Bool.false_and, Bool.false_eq_true, if_false]
  | true =>
    cases r.dryRun with
    | false => simp only [bind_assoc, pure_bind, Bool.and_false, Bool.false_eq_true, if_false, if_true]
    | true => simp only [bind_assoc, pure_bind, Bool.and_self, if_true]

/-- A split makes a report and concludes with it. -/
theorem work_split (env : Environment) (common : Common) (r : SplitRequest) :
    work env common (.split r) = (do
      let report ← splitReport env common r
      conclude env report
      trace "" "Command completed successfully".toList) := by
  rw [work_eq_bind, carryOut, splitReport]
  simp only [split_eq_bind, bind_assoc]

/-- Whether the conclusion completes depends on the checks alone. -/
theorem completes_conclude {env : Environment} {report : Report} {c : Console} :
    Completes (conclude env report) c ↔ ∀ v, report.verification = some v → v.verdict = .clean := by
  obtain ⟨_, c, traced⟩ := succeeds_trace "split" (describeReport report) c
  unfold conclude
  rw [completes_bind traced]
  obtain ⟨json, c, asked⟩ := succeeds_inJson c
  rw [completes_bind asked]
  cases json with
  | true =>
    obtain ⟨_, c, printed⟩ := succeeds_say (Json.write (reportValue env.now report)) c
    exact (completes_bind printed).trans completes_judge
  | false =>
    obtain ⟨_, c, printed⟩ := succeeds_sayReport report c
    exact (completes_bind printed).trans completes_judge

/-! ## Splits that commit between two checks -/

/-- The options that a run is given. -/
def SplitRequest.options (r : SplitRequest) (check : Option CheckCommand) : RunOptions where
  dryRun := r.dryRun
  forceBackup := r.force
  check := check

/-- A split commits between two checks: it opens a session, settles on an engine and a check, prepares a plan that has
something to write, and commits it after a first check and before a second. -/
inductive CommitsBetween (env : Environment) (common : Common) (r : SplitRequest) (w : World)
    (before after : CheckOutcome) : Prop
  | intro {s : Session} {e : Engine} {check : CheckCommand} {plan : Plan} {done : CommitReport}
    {c₁ c₂ c₃ : Console} {w' : World}
    (entered : (enter env common).run { world := w } = (.ok (), c₁))
    (started : (Session.start env.home common).run c₁ = (.ok s, c₂))
    (settled : (settle s r).run c₂ = (.ok (e, some check), c₃))
    (prepared : (Run.prepare e r.source r.outDir).run c₃.world = (.ok plan, c₃.world.next))
    (busy : (plan.isNoop || r.dryRun) = false)
    (commits : Run.Commits env.checker r.source r.outDir (r.options (some check)) plan done (some before) (some after)
      c₃.world.next w')

section

variable {env : Environment} {common : Common} {r : SplitRequest} {w w' : World} {before after : CheckOutcome}
  {s : Session} {e : Engine} {check : Option CheckCommand} {report : Report} {c c' : Console}

theorem runSplit_of_ok
    (done : (Run.split env.checker e s.name.toList r.source r.outDir (r.options check)).run c.world =
      (.ok report, w')) :
    (runSplit env s e r check).run c = (.ok report, { c with world := w' }) := by
  have resulted : (onWorld (fun err : RunError => .run err) (Effect.result
      (Run.split env.checker e s.name.toList r.source r.outDir (r.options check)))).run c =
        (.ok (.ok report), { c with world := w' }) := run_onWorld_of_ok (run_result_of done)
  exact run_bind_of_ok resulted

theorem exists_of_runSplit (run : (runSplit env s e r check).run c = (.ok report, c')) :
    ∃ w', (Run.split env.checker e s.name.toList r.source r.outDir (r.options check)).run c.world =
      (.ok report, w') := by
  obtain ⟨ended, m, done, rest⟩ := exists_of_run_bind run
  obtain ⟨w', resulted, -⟩ := exists_of_run_onWorld done
  obtain ⟨ended', ends, same⟩ := run_result resulted
  cases same
  cases ended with
  | ok report' =>
    cases rest
    exact ⟨w', ends⟩
  | error err =>
    obtain ⟨_, m, -, rest⟩ := exists_of_run_bind rest
    cases rest

/-- A split reports two checks exactly if it has committed between them. -/
theorem commitsBetween_iff : CommitsBetween env common r w before after ↔
    ∃ report c, (splitReport env common r).run { world := w } = (.ok report, c) ∧
      report.verification = some ⟨before, after⟩ := by
  constructor
  · rintro @⟨s, e, check, plan, done, c₁, c₂, c₃, w', entered, started, settled, prepared, busy, commits⟩
    have ran := runSplit_of_ok (s := s) (Run.split_of_commits prepared busy commits)
    have reported : (splitReport env common r).run { world := w } = (runSplit env s e r (some check)).run c₃ := by
      unfold splitReport
      rw [run_bind_of_ok entered, run_bind_of_ok started, run_bind_of_ok settled]
    exact ⟨_, _, reported.trans ran, rfl⟩
  · rintro ⟨report, c, run, verified⟩
    obtain ⟨_, c₁, entered, run⟩ := exists_of_run_bind run
    obtain ⟨s, c₂, started, run⟩ := exists_of_run_bind run
    obtain ⟨⟨e, check⟩, c₃, settled, run⟩ := exists_of_run_bind run
    obtain ⟨w', done⟩ := exists_of_runSplit run
    obtain ⟨plan, prepared, ⟨-, -, rfl⟩ | ⟨busy, done, first, second, commits, rfl⟩⟩ := Run.split_eq_ok done
    · -- a report of a plan alone has no checks
      cases verified
    · obtain ⟨rfl, rfl⟩ := Run.verification?_eq_some verified
      obtain ⟨check, rfl⟩ := commits.exists_check
      exact ⟨entered, started, settled, prepared, busy, commits⟩

theorem commitsBetween_of_report
    (reported : ((splitReport env common r).run { world := w }).1.toOption.bind Report.verification =
      some ⟨before, after⟩) : CommitsBetween env common r w before after := by
  cases ends : (splitReport env common r).run { world := w } with
  | mk result c =>
    rw [ends] at reported
    cases result with
    | error err => cases reported
    | ok report => exact commitsBetween_iff.mpr ⟨report, c, ends, reported⟩

/-- A split that commits between two checks completes exactly if they are clean. -/
theorem CommitsBetween.completes_iff (committed : CommitsBetween env common r w before after) :
    Completes (work env common (.split r)) { world := w } ↔ Verdict.compare before after = .clean := by
  obtain ⟨report, c, reported, verified⟩ := commitsBetween_iff.mp committed
  rw [work_split, completes_bind reported, completes_bind_of_succeeds fun _ => succeeds_trace _ _, completes_conclude,
    verified]
  simp [Verification.verdict]

end

/-- Success is never claimed over a regression. A verdict is clean exactly if the second check is no worse than the
first. So a check that finished is clean against itself, clean runs one after the other are clean together, and in a
chain of clean runs any two checks are. And a split that commits between two checks ends with status 0 exactly if their
verdict is clean. -/
theorem success_means_clean :
    (∀ before after, Verdict.compare before after = .clean ↔ before.NoWorse after) ∧
    (∀ o : CheckOutcome, o.IsFinished → Verdict.compare o o = .clean) ∧
    (∀ a b c, Verdict.compare a b = .clean → Verdict.compare b c = .clean → Verdict.compare a c = .clean) ∧
    (∀ outcomes : List CheckOutcome, outcomes.IsChain (fun a b => Verdict.compare a b = .clean) →
      outcomes.Pairwise fun a b => Verdict.compare a b = .clean) ∧
    ∀ env args common r w before after, Invocation.parse args env.config = .run common (.split r) →
      CommitsBetween env common r w before after →
        ((run env args w).status = 0 ↔ Verdict.compare before after = .clean) := by
  refine ⟨fun _ _ => Verdict.compare_eq_clean_iff, fun _ => Verdict.compare_self, fun _ _ _ => Verdict.clean_trans,
    fun _ => Verdict.pairwise_clean, ?_⟩
  intro env args common r w before after asked committed
  exact (status_eq_zero_iff asked).trans committed.completes_iff

/-- A source beside settings with a check that runs a script. -/
def scriptedWorld (script : String) : World where
  disk := { nodes := [(["db.ts".toList], .file (Utf8.encode "fn a \x7b\x7d\n".toList)),
    ([".partition.toml".toList], .file (Utf8.encode ("default_profile = \"p\"\n[profiles.p.scan]\n" ++
      "introducer = \"^fn ([a-z]+)\"\n[profiles.p.check]\n" ++
      "command = [\"sh\", \"-c\", \"" ++ script ++ "\"]\n").toList))] }

/-- An environment that runs checks in the shell. -/
def shellEnvironment : Environment where
  home := ⟨"/home".toList⟩
  now := []
  checker := Shell.check

/-- A split that is checked. -/
def checkedRequest : SplitRequest where
  source := ⟨"db.ts".toList⟩
  outDir := ⟨"parts".toList⟩
  check := true

/-- The backup that a commit leaves is what the first script waits for, and what the second does not bear. -/
theorem success_means_clean_sample :
    let args := ["split", "db.ts", "--out", "parts", "--check"].map String.toList
    let mended := scriptedWorld "test -e db.ts.backup"
    let broken := scriptedWorld "test ! -e db.ts.backup"
    CommitsBetween shellEnvironment {} checkedRequest mended (.failed 1) (.passed 0) ∧
      (run shellEnvironment args mended).status = 0 ∧
      CommitsBetween shellEnvironment {} checkedRequest broken (.passed 0) (.failed 1) ∧
      (run shellEnvironment args broken).status ≠ 0 := by
  intro args mended broken
  have asked : Invocation.parse args shellEnvironment.config = .run {} (.split checkedRequest) := by decide +kernel
  have mends : CommitsBetween shellEnvironment {} checkedRequest mended (.failed 1) (.passed 0) :=
    commitsBetween_of_report (by decide +kernel)
  have breaks : CommitsBetween shellEnvironment {} checkedRequest broken (.passed 0) (.failed 1) :=
    commitsBetween_of_report (by decide +kernel)
  refine ⟨mends, ?_, breaks, ?_⟩
  · exact (success_means_clean.2.2.2.2 _ _ _ _ _ _ _ asked mends).mpr (by decide)
  · intro ends
    have clean := (success_means_clean.2.2.2.2 _ _ _ _ _ _ _ asked breaks).mp ends
    cases clean

end Cleave.Command
