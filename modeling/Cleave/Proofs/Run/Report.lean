import Cleave.Proofs.Commit.Outcome
import Cleave.Proofs.Run.Split

/-!
# What reports say

A report is made from the plan, and completed from the commit if there is one. What it says about declarations is true
of the scan: every declaration that is closed is in one of the groups or retained, and what is unmatched fell back to
the reserved key (`Report.Accounts`). What it says about files is true of the commit: a backup and files are reported
exactly if the plan was committed, and then the files are those of the groups (`split_reports_truth`), which have landed
on the disk with their content (`reported_files_landed`).
-/

namespace Cleave

open Effect Commit

/-! ## What actions return -/

namespace Effect

variable {ε ε' α β : Type} {kind : α → Prop}

/-- Whenever it succeeds, the action returns values of one kind only. -/
def Returns (a : Effect ε α) (kind : α → Prop) : Prop :=
  ∀ w x w', a.run w = (.ok x, w') → kind x

namespace Returns

theorem any (a : Effect ε α) : a.Returns fun _ => True :=
  fun _ _ _ _ => trivial

theorem pure {x : α} (fits : kind x) : (Pure.pure x : Effect ε α).Returns kind := by
  intro w y w' run
  cases (run_pure run).1
  exact fits

theorem throw (e : ε) : (MonadExcept.throw e : Effect ε α).Returns kind := by
  intro w x w' run
  cases (run_throw run).1

theorem bind {kind' : β → Prop} {a : Effect ε α} {f : α → Effect ε β} (first : a.Returns kind)
    (second : ∀ x, kind x → (f x).Returns kind') : (a >>= f).Returns kind' := by
  intro w y w' run
  rcases run_bind run with ⟨e, -, failed⟩ | ⟨x, m, done, rest⟩
  · cases failed
  · exact second x (first w x m done) m y w' rest

theorem adapt (g : ε → ε') {a : Effect ε α} (returns : a.Returns kind) : (adapt g a).Returns kind := by
  intro w x w' run
  obtain ⟨s, inner, same⟩ := run_adapt run
  cases s with
  | error e => cases same
  | ok y =>
    cases same
    exact returns w x w' inner

end Returns

end Effect

namespace Commit

theorem returns_makeBackup (source : Path) (bytes : Bytes) :
    (makeBackup source bytes).Returns (· = backupPath source) := by
  refine .bind (.any _) fun _ _ => .bind (.any _) fun copied _ => ?_
  split
  · exact .pure rfl
  · exact .throw _

theorem returns_saveBackup (force : Bool) (source : Path) :
    (saveBackup force source).Returns (· = backupPath source) := by
  rw [saveBackup_eq]
  refine .bind (.any _) fun bytes _ => .bind (.any _) fun found _ => ?_
  split
  · refine .bind (.any _) fun old _ => ?_
    split
    · exact .pure rfl
    · split
      · exact returns_makeBackup source bytes
      · exact .throw _
  · exact returns_makeBackup source bytes

theorem returns_writeAll (outDir : Path) (written : List Path) (files : List GeneratedFile) :
    (writeAll outDir written files).Returns (· = written ++ files.map (target outDir)) := by
  induction files generalizing written with
  | nil => exact .pure (by simp)
  | cons f fs ih =>
    refine .bind (.any _) fun _ _ => ?_
    simpa using ih (written ++ [target outDir f])

/-- A commit reports the backup of the source and the targets of its files. -/
theorem returns_perform (force : Bool) (source outDir : Path) (files : List GeneratedFile) (root : Text) :
    (perform force source outDir files root).Returns fun done =>
      done.backup = backupPath source ∧ done.written = files.map (target outDir) := by
  refine .bind (.any _) fun _ _ => .bind (.adapt _ (returns_saveBackup force source)) fun backup saved => ?_
  refine .bind (returns_writeAll outDir [] files) fun written listed => .bind (.any _) fun _ _ => ?_
  exact .pure ⟨saved, listed⟩

end Commit

/-! ## Declarations -/

/-- Only rules let declarations fall back, and only to the reserved key, if they may move there. -/
theorem RuleTable.assign_of_fallsBack {table : RuleTable} {name : Text}
    (falls : (table.assign name).fallsBack = true) :
    table.assign name = .domain .misc false ∧ table.grouping = .rules ∧ table.extractMisc = true := by
  unfold assign at falls ⊢
  by_cases kept : table.keeps name = true
  · simp [kept, Assignment.fallsBack] at falls
  · cases grouping : table.grouping with
    | declaration => simp [kept, grouping, Assignment.fallsBack] at falls
    | rules =>
      cases found : table.find? name with
      | some key => simp [kept, grouping, found, Assignment.fallsBack] at falls
      | none =>
        by_cases extracts : table.extractMisc = true
        · simp [kept, extracts]
        · simp [kept, grouping, found, extracts, Assignment.fallsBack] at falls

theorem total_map_length {α β : Type} (f : α → List β) (xs : List α) :
    total (xs.map fun x => (f x).length) = (xs.flatMap f).length := by
  induction xs with
  | nil => rfl
  | cons x xs ih => simp [ih]

/-- What a report says about declarations is true of a scan: the groups and the retained declarations are all that is
closed, failures are those of the scan, and what is unmatched stands in the group of the reserved key. -/
structure Report.Accounts (r : Report) (table : RuleTable) (o : ScanOutcome) : Prop where
  extracted : r.extracted = total (r.groups.map fun g => g.declarations.length)
  counted : r.extracted + r.retained.length = o.declarations.length
  names : (r.groups.flatMap GroupSummary.declarations ++ r.retained).Perm (o.declarations.map Span.name)
  failures : r.failures = o.failures
  scanFailures : r.scanFailures = o.failures.map ScanFailure.name
  domains : (r.groups.map GroupSummary.domain).Nodup
  unmatched : r.unmatched = [] ∨ ∃ g ∈ r.groups, g.domain = .misc ∧ r.unmatched.Sublist g.declarations
  matched : table.grouping = .declaration ∨ table.extractMisc = false → r.unmatched = []

/-- Reports that agree say the same about declarations. -/
theorem Report.Agrees.accounts {r s : Report} {table : RuleTable} {o : ScanOutcome} (agrees : r.Agrees s)
    (accounts : s.Accounts table o) : r.Accounts table o := by
  constructor
  · rw [agrees.extracted, agrees.groups]
    exact accounts.extracted
  · rw [agrees.extracted, agrees.retained]
    exact accounts.counted
  · rw [agrees.groups, agrees.retained]
    exact accounts.names
  · rw [agrees.failures]
    exact accounts.failures
  · rw [agrees.scanFailures]
    exact accounts.scanFailures
  · rw [agrees.groups]
    exact accounts.domains
  · rw [agrees.groups, agrees.unmatched]
    exact accounts.unmatched
  · rw [agrees.unmatched]
    exact accounts.matched

namespace Grouped

variable (table : RuleTable) (spans : List Span)

theorem ofSpans_perm :
    ((ofSpans table spans).groups.flatMap DomainGroup.spans ++ (ofSpans table spans).retained).Perm spans := by
  rw [ofSpans_retained]
  refine ((ofSpans_groups table spans).append_right _).trans (List.perm_append_comm.trans ?_)
  exact List.filter_append_perm (fun s => table.retains s.name) spans

/-- The names of the groups and of the retained declarations are those of all declarations. -/
theorem names_perm : ((ofSpans table spans).groups.flatMap DomainGroup.names ++
    (ofSpans table spans).retained.map Span.name).Perm (spans.map Span.name) := by
  have perm := (ofSpans_perm table spans).map Span.name
  rw [List.map_append, List.map_flatMap] at perm
  exact perm

/-- What falls back stands in the group of the reserved key. -/
theorem unmatched_cases : (ofSpans table spans).unmatched = [] ∨
    ∃ g ∈ (ofSpans table spans).groups, g.key = .misc ∧ (ofSpans table spans).unmatched.Sublist g.names := by
  have sorted := sorted_ofSpans table spans
  have sent (s : Span) (falls : (table.assign s.name).fallsBack = true) : table.sends .misc s = true :=
    sends_of_assign (RuleTable.assign_of_fallsBack falls).1
  rw [ofSpans_unmatched]
  cases fallen : spans.filter fun s => (table.assign s.name).fallsBack with
  | nil => exact .inl rfl
  | cons s rest =>
    have first : s ∈ spans.filter fun s => (table.assign s.name).fallsBack := by simp [fallen]
    obtain ⟨inside, falls⟩ := List.mem_filter.mp first
    obtain ⟨g, member, key⟩ := List.mem_map.mp ((sorted.complete .misc).mpr ⟨s, inside, sent s falls⟩)
    refine .inr ⟨g, member, key, ?_⟩
    rw [← fallen, DomainGroup.names, sorted.spans_eq g member, key]
    exact (List.monotone_filter_right spans sent).map Span.name

theorem unmatched_eq_nil {table : RuleTable} (none : table.grouping = .declaration ∨ table.extractMisc = false) :
    (ofSpans table spans).unmatched = [] := by
  rw [ofSpans_unmatched, List.map_eq_nil_iff, List.filter_eq_nil_iff]
  intro s _ falls
  obtain ⟨-, rules, extracts⟩ := RuleTable.assign_of_fallsBack falls
  rcases none with own | stays
  · rw [own] at rules
    cases rules
  · rw [stays] at extracts
    cases extracts

end Grouped

/-- The report of a plan is true of the scan that the plan is made from. -/
theorem Engine.accounts_ofPlan (e : Engine) (d : Document) (layout : Layout) (source outDir : Path) (profile : Text)
    (dryRun : Bool) :
    (Report.ofPlan source outDir profile dryRun (e.plan d layout)).Accounts e.table (e.patterns.scan d) := by
  have names := Grouped.names_perm e.table (e.patterns.scan d).declarations
  have groups : (Report.ofPlan source outDir profile dryRun (e.plan d layout)).groups.flatMap
      GroupSummary.declarations = (e.group (e.patterns.scan d)).groups.flatMap DomainGroup.names := by
    simp [Report.ofPlan, plan, planGroup, List.flatMap_map]
  have extracted : (Report.ofPlan source outDir profile dryRun (e.plan d layout)).extracted =
      total ((Report.ofPlan source outDir profile dryRun (e.plan d layout)).groups.map fun g =>
        g.declarations.length) := by
    simp [Report.ofPlan, Plan.extracted, Function.comp_def]
  have domains : (Report.ofPlan source outDir profile dryRun (e.plan d layout)).groups.map GroupSummary.domain =
      (e.group (e.patterns.scan d)).groups.map DomainGroup.key := by
    simp [Report.ofPlan, plan, planGroup]
  refine ⟨extracted, ?_, ?_, rfl, rfl, ?_, ?_, ?_⟩
  · rw [extracted, total_map_length, groups, ← List.length_append, ← List.length_map Span.name]
    exact names.length_eq
  · rw [groups]
    exact names
  · rw [domains]
    exact (Grouped.sorted_ofSpans e.table (e.patterns.scan d).declarations).distinct
  · rcases Grouped.unmatched_cases e.table (e.patterns.scan d).declarations with none | ⟨g, member, key, sublist⟩
    · exact .inl none
    · exact .inr ⟨_, List.mem_map_of_mem (List.mem_map_of_mem member), key, sublist⟩
  · exact Grouped.unmatched_eq_nil (e.patterns.scan d).declarations

/-! ## Files -/

namespace Run

variable {checker : Checker} {e : Engine} {profile : Text} {source outDir : Path} {options : RunOptions}
  {plan : Plan} {report : Report} {w w' : World}

/-- A plan is committed on the way from one world to another, after a first check and before a second. -/
def Commits (checker : Checker) (source outDir : Path) (options : RunOptions) (plan : Plan) (done : CommitReport)
    (before after : Option CheckOutcome) (w w' : World) : Prop :=
  ∃ m m', (check checker (checkDir source) options.check).run w = (.ok before, m) ∧
    (perform options.forceBackup source outDir plan.files plan.root.content).run m = (.ok done, m') ∧
    (check checker (checkDir source) options.check).run m' = (.ok after, w')

/-- A split has committed what it prepared: there was something to write, and the commit succeeded. -/
def Committed (checker : Checker) (e : Engine) (source outDir : Path) (options : RunOptions) (w w' : World) : Prop :=
  ∃ plan done before after, (prepare e source outDir).run w = (.ok plan, w.next) ∧
    (plan.isNoop || options.dryRun) = false ∧ Commits checker source outDir options plan done before after w.next w'

/-- A split that succeeds has prepared a plan, and either there was nothing to write or the plan is committed. -/
theorem split_eq_ok (run : (Run.split checker e profile source outDir options).run w = (.ok report, w')) :
    ∃ plan, (prepare e source outDir).run w = (.ok plan, w.next) ∧
      ((plan.isNoop || options.dryRun) = true ∧ w' = w.next ∧
          report = .ofPlan source outDir profile options.dryRun plan ∨
        (plan.isNoop || options.dryRun) = false ∧ ∃ done before after,
          Commits checker source outDir options plan done before after w.next w' ∧
          report = { Report.ofPlan source outDir profile options.dryRun plan with
            groupsWritten := done.written.length
            backup := some done.backup
            written := done.written
            verification := verification? before after }) := by
  rw [split_eq_bind] at run
  rcases run_bind run with ⟨err, -, failed⟩ | ⟨plan, m, prepared, rest⟩
  · cases failed
  obtain rfl := prepare_world prepared
  refine ⟨plan, prepared, ?_⟩
  rw [carryOut] at rest
  split at rest
  · rename_i idle
    obtain ⟨same, rfl⟩ := run_pure rest
    exact .inl ⟨idle, rfl, Except.ok.inj same⟩
  · rename_i busy
    rcases run_bind rest with ⟨err, -, failed⟩ | ⟨before, m, first, rest⟩
    · cases failed
    rcases run_bind_adapt rest with ⟨err, -, failed⟩ | ⟨done, m', committed, rest⟩
    · cases failed
    rcases run_bind rest with ⟨err, -, failed⟩ | ⟨after, m'', second, rest⟩
    · cases failed
    obtain ⟨same, rfl⟩ := run_pure rest
    exact .inr ⟨by simpa using busy, done, before, after, ⟨m, m', first, committed, second⟩, Except.ok.inj same⟩

/-- A plan that is prepared and committed is reported with its commit and the checks around it. -/
theorem split_of_commits {done : CommitReport} {before after : Option CheckOutcome}
    (prepared : (prepare e source outDir).run w = (.ok plan, w.next)) (busy : (plan.isNoop || options.dryRun) = false)
    (commits : Commits checker source outDir options plan done before after w.next w') :
    (Run.split checker e profile source outDir options).run w =
      (.ok { Report.ofPlan source outDir profile options.dryRun plan with
        groupsWritten := done.written.length
        backup := some done.backup
        written := done.written
        verification := verification? before after }, w') := by
  obtain ⟨m, m', first, committed, second⟩ := commits
  rw [split_eq_bind, run_bind_of_ok prepared, carryOut, busy]
  dsimp only
  rw [if_neg Bool.false_ne_true, run_bind_of_ok first, run_bind_of_ok (run_adapt_of_ok committed),
    run_bind_of_ok second]
  rfl

/-- A check was carried out only if there is one. -/
theorem Commits.exists_check {done : CommitReport} {before : CheckOutcome} {after : Option CheckOutcome}
    (commits : Commits checker source outDir options plan done (some before) after w w') :
    ∃ check, options.check = some check := by
  obtain ⟨m, m', first, -⟩ := commits
  cases given : options.check with
  | some check => exact ⟨check, rfl⟩
  | none =>
    rw [given] at first
    cases (run_pure first).1

theorem verification?_eq_some {first second : Option CheckOutcome} {v : Verification}
    (verified : verification? first second = some v) : first = some v.before ∧ second = some v.after := by
  cases first with
  | none => cases verified
  | some before =>
    cases second with
    | none => cases verified
    | some after =>
      cases verified
      exact ⟨rfl, rfl⟩

/-- A split has nothing to write on a dry run, and if its report lists no groups. -/
theorem idle_iff (source outDir : Path) (profile : Text) (dryRun : Bool) (plan : Plan) :
    (plan.isNoop || dryRun) = true ↔ dryRun = true ∨ (Report.ofPlan source outDir profile dryRun plan).groups = [] := by
  simp [Report.ofPlan, Plan.isNoop, or_comm]

/-- What is prepared is committed only if there is something to write. -/
theorem not_committed (prepared : (prepare e source outDir).run w = (.ok plan, w.next))
    (idle : (plan.isNoop || options.dryRun) = true) : ¬ Committed checker e source outDir options w w' := by
  rintro ⟨plan', done, before, after, again, busy, -⟩
  cases prepared.symm.trans again
  rw [idle] at busy
  cases busy

/-- A commit lists the backup of the source and the files of the groups. -/
theorem Commits.lists {done : CommitReport} {before after : Option CheckOutcome}
    (commits : Commits checker source outDir options plan done before after w w') (profile : Text) :
    done.backup = backupPath source ∧
      done.written = (Report.ofPlan source outDir profile options.dryRun plan).groups.map GroupSummary.file := by
  obtain ⟨m, m', -, run, -⟩ := commits
  obtain ⟨backup, written⟩ := returns_perform _ _ _ _ _ m done m' run
  refine ⟨backup, ?_⟩
  rw [written]
  simp [Report.ofPlan, Plan.files, target]

/-- The report of a split tells the truth. The source was read, and the report accounts for the declarations that the
scan of its text closes. A backup is reported exactly if the plan was committed, which is so unless the split is a dry
run or finds no group. If it was committed, the report lists the file of each group in order; and else it lists none,
and nothing has changed since the source was read. -/
theorem split_reports_truth (run : (Run.split checker e profile source outDir options).run w = (.ok report, w')) :
    ∃ text, w.text? source = some text ∧
      report.Accounts e.table (e.patterns.scan (.ofText source text)) ∧
      (report.backup.isSome ↔ Committed checker e source outDir options w w') ∧
      (Committed checker e source outDir options w w' ↔ options.dryRun = false ∧ report.groups ≠ []) ∧
      (Committed checker e source outDir options w w' →
        report.backup = some (backupPath source) ∧ report.written = report.groups.map GroupSummary.file ∧
          report.groupsWritten = report.written.length) ∧
      (options.dryRun = true ∨ report.groups = [] →
        report.written = [] ∧ report.groupsWritten = 0 ∧ w' = w.next) := by
  obtain ⟨plan, prepared, outcome⟩ := split_eq_ok run
  obtain ⟨text, known, planned⟩ := prepare_reads prepared
  have accounts := e.accounts_ofPlan (.ofText source text) (layout w.cwd source outDir) source outDir profile
    options.dryRun
  rw [← planned] at accounts
  have idle_iff := idle_iff source outDir profile options.dryRun plan
  refine ⟨text, known, ?_⟩
  rcases outcome with ⟨idle, rfl, rfl⟩ | ⟨busy, done, before, after, commits, rfl⟩
  · have none : ¬ Committed checker e source outDir options w w.next := not_committed prepared idle
    have unsaved : ¬ (Report.ofPlan source outDir profile options.dryRun plan).backup.isSome := by simp [Report.ofPlan]
    refine ⟨accounts, iff_of_false unsaved none, iff_of_false none ?_, fun committed => ?_, fun _ => ?_⟩
    · rintro ⟨wet, groups⟩
      rcases idle_iff.mp idle with dry | empty
      · rw [wet] at dry
        cases dry
      · exact groups empty
    · exact absurd committed none
    · exact ⟨rfl, rfl, rfl⟩
  · have committed : Committed checker e source outDir options w w' :=
      ⟨plan, done, before, after, prepared, busy, commits⟩
    obtain ⟨backup, written⟩ := commits.lists profile
    have writes : ¬(options.dryRun = true ∨ (Report.ofPlan source outDir profile options.dryRun plan).groups = []) := by
      rw [← idle_iff, busy]
      exact Bool.false_ne_true
    refine ⟨?_, iff_of_true rfl committed, iff_of_true committed ?_, fun _ => ?_, fun idle => ?_⟩
    · -- the commit adds to the report of the plan, but nothing about declarations
      exact Report.Agrees.accounts (s := .ofPlan source outDir profile options.dryRun plan)
        ⟨rfl, rfl, rfl, rfl, rfl, rfl, rfl⟩ accounts
    · simpa using writes
    · exact ⟨congrArg some backup, written, rfl⟩
    · exact absurd idle writes

/-- What is reported as written is on the disk: a split without a check that has committed what it prepared lists the
files of its plan, and if no temporary path is in the way of another, they have landed. -/
theorem reported_files_landed (run : (Run.split checker e profile source outDir options).run w = (.ok report, w'))
    (unchecked : options.check = none) (committed : Committed checker e source outDir options w w')
    (links : w.disk.LinkFree) (device : w.disk.DeviceInPlace) :
    ∃ plan, (prepare e source outDir).run w = (.ok plan, w.next) ∧
      report.written = plan.files.map (target outDir) ∧
      (((places source outDir plan.files ++ (places source outDir plan.files).map tempPath).map
        (Path.resolve? w.cwd)).Nodup → Landed source outDir plan.files plan.root.content w w') := by
  obtain ⟨plan, prepared, outcome⟩ := split_eq_ok run
  rcases outcome with ⟨idle, rfl, rfl⟩ | ⟨-, done, before, after, ⟨m, m', first, performed, second⟩, rfl⟩
  · exact absurd committed (not_committed prepared idle)
  · -- without a check the commit starts where the plan is ready, and ends where the split ends
    rw [unchecked] at first second
    obtain ⟨-, rfl⟩ := run_pure first
    obtain ⟨-, rfl⟩ := run_pure second
    obtain ⟨-, written⟩ := returns_perform _ _ _ _ _ _ _ _ performed
    refine ⟨plan, prepared, written, fun apart => ?_⟩
    obtain ⟨-, landed⟩ := landed_of_perform (w := w.next) links device apart performed
    exact ⟨landed.targets, landed.replaced, landed.backup, landed.clean, landed.others⟩

/-- A split that is forced to replace a backup, and checks its source before and after. -/
def checkedSplit : Effect RunError Report :=
  Run.split (fun _ _ => pure (.passed 0)) .sample "sample".toList ⟨"db.ts".toList⟩ ⟨"parts".toList⟩
    { forceBackup := true
      check := some
        { program := "true".toList, arguments := [], timeoutMillis := 1000, diagnostic := none, workingDir := none } }

theorem split_reports_truth_sample :
    ∃ report w', checkedSplit.run guardedWorld = (.ok report, w') ∧
      report.backup = some ⟨"db.ts.backup".toList⟩ ∧ report.groups.map GroupSummary.file = [⟨"parts/misc.ts".toList⟩] ∧
      report.written = report.groups.map GroupSummary.file ∧ report.groupsWritten = 1 ∧
      report.unmatched = ["a".toList] ∧ report.retained = ["main".toList] ∧
      report.extracted = total (report.groups.map fun g => g.declarations.length) := by
  have found : (checkedSplit.run guardedWorld).1.map (fun r =>
      (r.groups.map GroupSummary.file, r.unmatched, r.retained)) =
        .ok ([⟨"parts/misc.ts".toList⟩], ["a".toList], ["main".toList]) := by
    decide +kernel
  obtain ⟨report, succeeds, same⟩ := map_eq_ok found
  obtain ⟨files, unmatched, retained⟩ : report.groups.map GroupSummary.file = [⟨"parts/misc.ts".toList⟩] ∧
      report.unmatched = ["a".toList] ∧ report.retained = ["main".toList] := by
    simpa using same
  obtain ⟨text, -, accounts, -, committed, lists, -⟩ := split_reports_truth (run_of_fst succeeds)
  have groups : report.groups ≠ [] := by
    intro empty
    simp [empty] at files
  obtain ⟨backup, written, count⟩ := lists (committed.mpr ⟨rfl, groups⟩)
  refine ⟨report, _, run_of_fst succeeds, backup, files, written, ?_, unmatched, retained, accounts.extracted⟩
  rw [count, written, files]
  rfl

end Run

end Cleave
