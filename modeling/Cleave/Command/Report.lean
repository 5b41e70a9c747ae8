import Cleave.Command.Console

/-!
# Printing results

Reports and scans as JSON and as text.
-/

namespace Cleave.Command

open Work

/-- A text as a value. -/
def textValue (t : Text) : Value :=
  .string (String.ofList t)

/-- Texts as a value. -/
def textValues (ts : List Text) : Value :=
  .list (ts.map textValue)

/-- Paths as a value. -/
def pathValues (ps : List Path) : Value :=
  textValues (ps.map Path.text)

/-- A number as a value. -/
def natValue (n : Nat) : Value :=
  .int n

/-- A scan failure as a value. -/
def failureValue : ScanFailure → Value
  | .unterminated name line =>
    .table [("kind", .string "unterminated"), ("name", textValue name), ("line", natValue line)]
  | .interrupted name line nextLine =>
    .table [("kind", .string "interrupted"), ("name", textValue name), ("line", natValue line),
      ("next_line", natValue nextLine)]

/-- A check outcome as a value. -/
def outcomeValue : CheckOutcome → Value
  | .passed n => .table [("status", .string "passed"), ("diagnostics", natValue n)]
  | .failed n => .table [("status", .string "failed"), ("diagnostics", natValue n)]
  | .unknown reason => .table [("status", .string "unknown"), ("reason", textValue reason)]

/-- Checks around a run as a value. -/
def verificationValue (v : Verification) : Value :=
  .table [("before", outcomeValue v.before), ("after", outcomeValue v.after),
    ("verdict", .string v.verdict.text)]

/-- A group of a report as a value. -/
def groupValue (g : GroupSummary) : Value :=
  .table [("domain", textValue g.domain.text), ("file", textValue g.file.text),
    ("declarations", textValues g.declarations), ("imports", natValue g.imports)]

/-- A report as a table, without the time it was made. -/
def reportEntries (r : Report) : List (String × Value) :=
  [("source", textValue r.source.text), ("output_dir", textValue r.outputDir.text),
   ("profile", textValue r.profile), ("groups_written", natValue r.groupsWritten),
   ("declarations_extracted", natValue r.extracted), ("scan_failures", textValues r.scanFailures),
   ("failures", .list (r.failures.map failureValue)), ("groups", .list (r.groups.map groupValue)),
   ("retained", textValues r.retained), ("unmatched", textValues r.unmatched)] ++
    Value.entry? "aggregator" textValue r.aggregator ++
    Value.entry? "backup" textValue (r.backup.map Path.text) ++
    [("written", pathValues r.written), ("dry_run", .bool r.dryRun)] ++
    Value.entry? "verification" verificationValue r.verification

/-- A report as a value. -/
def reportValue (now : Text) (r : Report) : Value :=
  .table (reportEntries r ++ [("generated_at", textValue now)])

/-- A line under the head of a table. -/
def rule : Text :=
  List.replicate 70 '-'

/-- A count in a column. -/
def column (width n : Nat) : Text :=
  Text.padRight width (Text.ofNat n)

/-- Names in a row. -/
def commaList (ts : List Text) : Text :=
  Text.join ", ".toList ts

/-- Prints the groups of a report. -/
def sayGroups (r : Report) : Work Unit := do
  let verb := if r.dryRun then "Would write " else "Wrote "
  say (verb.toList ++ r.source.text ++ " (profile: ".toList ++ r.profile ++ "):".toList)
  say (Text.padRight 16 "DOMAIN".toList ++ " DECLS  IMPORTS  FILE".toList)
  say rule
  for g in r.groups do
    say (g.domain.text ++ [' '] ++ column 6 g.declarations.length ++ [' '] ++ column 8 g.imports ++
      [' '] ++ g.file.text)
  say []
  let done := if r.dryRun then "Would extract " else "Extracted "
  say (done.toList ++ Text.ofNat r.extracted ++ " declarations into ".toList ++
    Text.ofNat r.groups.length ++ " files".toList)

/-- Prints a report as text. -/
def sayReport (r : Report) : Work Unit := do
  if r.groups.isEmpty then
    say ("No declarations to extract from ".toList ++ r.source.text ++ " (profile: ".toList ++ r.profile ++
      "); nothing written.".toList)
  else sayGroups r
  if !r.retained.isEmpty then say ("Kept in root: ".toList ++ commaList r.retained)
  if !r.unmatched.isEmpty then say ("Unmatched (misc): ".toList ++ commaList r.unmatched)
  if let some backup := r.backup then say ("Backup: ".toList ++ backup.text)
  for failure in r.failures do
    warn ("could not scan ".toList ++ failure.message ++ "; left in place".toList)
  if let some v := r.verification then say ("Check: ".toList ++ Failure.outcomes v)

end Cleave.Command
