import Cleave.Text.Basic

/-!
# Check outcomes

A check either finishes, with a number of diagnostics, or its outcome is unknown. Two outcomes around a run give
a verdict: a run is clean only if both checks finished and nothing got worse.
-/

namespace Cleave

/-- The result of one check. -/
inductive CheckOutcome
  | passed (diagnostics : Nat)
  | failed (diagnostics : Nat)
  | unknown (reason : Text)
  deriving DecidableEq, Repr

namespace CheckOutcome

/-- The number of diagnostics of a finished check. -/
def diagnostics? : CheckOutcome → Option Nat
  | passed n => some n
  | failed n => some n
  | unknown _ => none

/-- Whether the check finished without complaint. -/
def isPassed : CheckOutcome → Bool
  | passed _ => true
  | _ => false

/-- The outcome in words. -/
def label : CheckOutcome → Text
  | passed n => "passed (".toList ++ Text.ofNat n ++ " diagnostics)".toList
  | failed n => "failed (".toList ++ Text.ofNat n ++ " diagnostics)".toList
  | unknown reason => "unknown (".toList ++ reason ++ ")".toList

end CheckOutcome

/-- What two checks around a run say about it. -/
inductive Verdict
  /-- No more diagnostics than before. -/
  | clean
  /-- More diagnostics, or a pass turned into a failure. -/
  | regressed
  /-- At least one check did not finish. -/
  | unknown
  deriving DecidableEq, Repr

/-- The written form of a verdict. -/
def Verdict.text : Verdict → String
  | clean => "clean"
  | regressed => "regressed"
  | unknown => "unknown"

/-- Compares the outcomes before and after a run. -/
def Verdict.compare (before after : CheckOutcome) : Verdict :=
  match before.diagnostics?, after.diagnostics? with
  | some b, some a =>
    if before.isPassed && !after.isPassed then regressed
    else if b < a then regressed
    else clean
  | _, _ => unknown

/-- The checks around a run. -/
structure Verification where
  before : CheckOutcome
  after : CheckOutcome
  deriving DecidableEq, Repr

namespace Verification

/-- What the checks say about the run. -/
def verdict (v : Verification) : Verdict :=
  Verdict.compare v.before v.after

/-- Whether the run made nothing worse. -/
def isClean (v : Verification) : Bool :=
  v.verdict == .clean

end Verification

end Cleave
