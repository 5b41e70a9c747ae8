import Cleave.Check.Command
import Cleave.Commit
import Cleave.Plan

/-!
# Runs

A run reads a source file, plans it, and commits the plan, with a check before and after. The report of a run
says what was or would be done.
-/

namespace Cleave

/-- How a check is carried out: the command and the directory it runs in by default. -/
abbrev Checker := CheckCommand → Path → StateM World CheckOutcome

/-- What a run is asked to do. -/
structure RunOptions where
  /-- Plan and report without writing. -/
  dryRun : Bool := false
  /-- Replace a backup that differs from the source. -/
  forceBackup : Bool := false
  check : Option CheckCommand := none

/-- What a report says about one group. -/
structure GroupSummary where
  domain : DomainKey
  file : Path
  declarations : List Text
  imports : Nat
  deriving DecidableEq, Repr

/-- What a run did. -/
structure Report where
  source : Path
  outputDir : Path
  profile : Text
  groupsWritten : Nat := 0
  extracted : Nat
  failures : List ScanFailure
  groups : List GroupSummary
  retained : List Text
  unmatched : List Text
  aggregator : Option Text
  backup : Option Path := none
  written : List Path := []
  dryRun : Bool
  verification : Option Verification := none
  deriving DecidableEq, Repr

namespace Report

/-- The report of a run that has not written anything. -/
def ofPlan (source outDir : Path) (profile : Text) (dryRun : Bool) (plan : Plan) : Report where
  source := source
  outputDir := outDir
  profile := profile
  extracted := plan.extracted
  failures := plan.failures
  groups := plan.groups.map fun g =>
    { domain := g.key, file := outDir.join g.file.path, declarations := g.declarations,
      imports := g.imports.size }
  retained := plan.retained
  unmatched := plan.unmatched
  aggregator := plan.aggregator
  dryRun := dryRun

/-- The names of the declarations that do not close. -/
def scanFailures (r : Report) : List Text :=
  r.failures.map ScanFailure.name

/-- Whether some declarations could not be scanned. -/
def isPartial (r : Report) : Bool :=
  !r.failures.isEmpty

/-- Whether the checks did not come back clean. -/
def needsReview (r : Report) : Bool :=
  r.verification.any fun v => !v.isClean

end Report

/-- Why a run fails. -/
inductive RunError
  | unreadable (source : Path) (cause : DiskError)
  | refused (source : Path) (error : WriteError)
  | aborted (source : Path) (error : CommitError)
  deriving DecidableEq, Repr

/-- The wordings of the error and of what caused it. -/
def RunError.chain : RunError → List Text
  | unreadable source cause => ["Failed to read source: ".toList ++ source.text, cause.message]
  | refused source error => ("Failed to partition ".toList ++ source.text) :: error.chain
  | aborted source error => ("Failed to partition ".toList ++ source.text) :: error.chain

/-- An error with its causes on one line. -/
def chainText (chain : List Text) : Text :=
  Text.join ": ".toList chain

namespace Run

open Effect

/-- Where the root and the generated files live, seen from the current directory. -/
def layout (cwd : Location) (source outDir : Path) : Layout where
  rootDir := ((source.below cwd).parent?).getD ⟨[]⟩
  outDir := outDir.below cwd

/-- Reads a source file and plans it. -/
def plan (e : Engine) (source outDir : Path) : Effect RunError (Document × Plan) := do
  let text ← adapt (.unreadable source) (readText source)
  let document := Document.ofText source text
  inspect fun w => .ok (document, e.plan document (layout w.cwd source outDir))

/-- The directory that checks run in by default: the one that holds the source. -/
def checkDir (source : Path) : Path :=
  match source.parent? with
  | some p => if p.text = [] then ⟨['.']⟩ else p
  | none => ⟨['.']⟩

/-- Carries out a check, if there is one. -/
def check (checker : Checker) (dir : Path) : Option CheckCommand → Effect RunError (Option CheckOutcome)
  | none => pure none
  | some c => ExceptT.lift ((checker c dir).map some)

/-- The checks around a run, if both were carried out. -/
def verification? : Option CheckOutcome → Option CheckOutcome → Option Verification
  | some before, some after => some { before, after }
  | _, _ => none

/-- Splits a source file. Nothing is written if nothing is extracted, or on a dry run. -/
def split (checker : Checker) (e : Engine) (profile : Text) (source outDir : Path) (options : RunOptions) :
    Effect RunError Report := do
  let (_, plan) ← Run.plan e source outDir
  let report := Report.ofPlan source outDir profile options.dryRun plan
  if plan.isNoop then return report
  adapt (.refused source) (inspect fun w => Commit.checkDistinct w.cwd source outDir plan.files)
  if options.dryRun then return report
  let before ← check checker (checkDir source) options.check
  let done ← adapt (.aborted source)
    (Commit.perform options.forceBackup source outDir plan.files plan.root.content)
  let after ← check checker (checkDir source) options.check
  return { report with
    groupsWritten := done.written.length
    backup := some done.backup
    written := done.written
    verification := verification? before after }

end Run

end Cleave
