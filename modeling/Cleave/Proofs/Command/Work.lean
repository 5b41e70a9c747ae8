import Cleave.Command.Program
import Cleave.Proofs.Disk.Effect

/-!
# Work that completes

The program ends with status 0 exactly if its work completes (`status_eq_zero_iff`). Printing succeeds on every console,
so it never decides whether work completes; and of what is printed at the end of a split, only a verdict on its checks
does (`completes_judge`).
-/

namespace Cleave.Command

open Effect Work

variable {α β : Type}

/-- The work ends without a failure on a console. -/
def Completes (a : Work α) (c : Console) : Prop :=
  ∃ x c', a.run c = (.ok x, c')

/-- The work ends without a failure on every console. -/
def Succeeds (a : Work α) : Prop :=
  ∀ c, Completes a c

theorem completes_bind {a : Work α} {f : α → Work β} {c c' : Console} {x : α} (first : a.run c = (.ok x, c')) :
    Completes (a >>= f) c ↔ Completes (f x) c' := by
  unfold Completes
  rw [run_bind_of_ok first]

/-- Work that always succeeds does not decide whether what comes before it completes. -/
theorem completes_bind_of_succeeds {a : Work α} {f : α → Work β} {c : Console} (rest : ∀ x, Succeeds (f x)) :
    Completes (a >>= f) c ↔ Completes a c := by
  constructor
  · rintro ⟨y, c', ends⟩
    obtain ⟨x, m, first, -⟩ := exists_of_run_bind ends
    exact ⟨x, m, first⟩
  · rintro ⟨x, m, first⟩
    exact (completes_bind first).mpr (rest x m)

theorem not_completes_throw (e : Failure) (c : Console) : ¬ Completes (throw e : Work α) c := by
  rintro ⟨x, c', ends⟩
  cases ends

/-- The program ends with status 0 exactly if the work that it is asked for completes. -/
theorem status_eq_zero_iff {env : Environment} {args : List Text} {common : Common} {request : Request} {w : World}
    (asked : Invocation.parse args env.config = .run common request) :
    (run env args w).status = 0 ↔ Completes (work env common request) { world := w } := by
  unfold run
  rw [asked]
  dsimp only
  cases ends : (work env common request).run { world := w } with
  | mk r c =>
    cases r with
    | ok x => simpa using ⟨x, c, ends⟩
    | error e =>
      have fails : ¬ Completes (work env common request) { world := w } := by
        rintro ⟨x, c', completes⟩
        cases ends.symm.trans completes
      simpa using fails

/-! ## The world of a console -/

theorem run_onWorld_of_ok {ε : Type} {failure : ε → Failure} {a : Effect ε α} {c : Console} {x : α} {w' : World}
    (done : a.run c.world = (.ok x, w')) : (onWorld failure a).run c = (.ok x, { c with world := w' }) := by
  simp only [onWorld, ExceptT.run_mk]
  rw [done]

theorem exists_of_run_onWorld {ε : Type} {failure : ε → Failure} {a : Effect ε α} {c c' : Console} {x : α}
    (run : (onWorld failure a).run c = (.ok x, c')) :
    ∃ w', a.run c.world = (.ok x, w') ∧ c' = { c with world := w' } := by
  simp only [onWorld, ExceptT.run_mk] at run
  split at run
  · rename_i y w' done
    cases run
    exact ⟨w', done, rfl⟩
  · cases run

/-! ## Work that always succeeds -/

namespace Succeeds

theorem pure (x : α) : Succeeds (Pure.pure x : Work α) :=
  fun c => ⟨x, c, rfl⟩

theorem get : Succeeds (MonadState.get : Work Console) :=
  fun c => ⟨c, c, rfl⟩

theorem bind {a : Work α} {f : α → Work β} (first : Succeeds a) (rest : ∀ x, Succeeds (f x)) :
    Succeeds (a >>= f) := by
  intro c
  obtain ⟨x, c', done⟩ := first c
  exact (completes_bind done).mpr (rest x c')

/-- What is done on a condition, before the rest. -/
theorem when {p : Prop} [Decidable p] {a : Work Unit} {f : Unit → Work β} (part : Succeeds a)
    (rest : ∀ x, Succeeds (f x)) : Succeeds (if p then a >>= f else f ()) := by
  split
  · exact part.bind rest
  · exact rest ()

/-- One of two things, before the rest. -/
theorem either {p : Prop} [Decidable p] {a b : Work α} {f : α → Work β} (left : Succeeds a) (right : Succeeds b)
    (rest : ∀ x, Succeeds (f x)) : Succeeds (if p then a >>= f else b >>= f) := by
  split
  · exact left.bind rest
  · exact right.bind rest

theorem forIn {xs : List α} {f : α → Work Unit} (each : ∀ x, Succeeds (f x)) :
    Succeeds (ForIn.forIn xs PUnit.unit fun x _ => do f x; Pure.pure (ForInStep.yield PUnit.unit)) := by
  induction xs with
  | nil => exact .pure _
  | cons x xs ih =>
    rw [List.forIn_cons, bind_assoc]
    refine .bind (each x) fun _ => ?_
    rw [pure_bind]
    exact ih

end Succeeds

/-! ## Printing -/

theorem succeeds_say (line : Text) : Succeeds (say line) :=
  fun _ => ⟨_, _, rfl⟩

theorem succeeds_note (line : Text) : Succeeds (note line) :=
  fun _ => ⟨_, _, rfl⟩

theorem succeeds_inJson : Succeeds inJson :=
  .bind .get fun _ => .pure _

theorem succeeds_warn (line : Text) : Succeeds (warn line) := by
  refine .bind succeeds_inJson fun json => ?_
  split
  · exact succeeds_note _
  · exact .pure _

theorem succeeds_trace (topic : String) (line : Text) : Succeeds (trace topic line) := by
  refine .bind .get fun c => ?_
  split
  · exact succeeds_note _
  · exact .pure _

theorem succeeds_sayGroups (r : Report) : Succeeds (sayGroups r) := by
  refine .bind (succeeds_say _) fun _ => .bind (succeeds_say _) fun _ => .bind (succeeds_say _) fun _ => ?_
  refine .bind (.forIn fun g => succeeds_say _) fun _ => ?_
  exact .bind (succeeds_say _) fun _ => succeeds_say _

theorem succeeds_sayReport (r : Report) : Succeeds (sayReport r) := by
  refine .either (succeeds_say _) (succeeds_sayGroups r) fun _ => ?_
  refine .when (succeeds_say _) fun _ => .when (succeeds_say _) fun _ => ?_
  have warned {a : Work Unit} (last : Succeeds a) : Succeeds (do
      for failure in r.failures do
        warn ("could not scan ".toList ++ failure.message ++ "; left in place".toList)
      a) := .bind (.forIn fun failure => succeeds_warn _) fun _ => last
  cases r.verification with
  | none =>
    cases r.backup with
    | none => exact warned (.pure _)
    | some backup => exact .bind (succeeds_say _) fun _ => warned (.pure _)
  | some v =>
    cases r.backup with
    | none => exact warned (succeeds_say _)
    | some backup => exact .bind (succeeds_say _) fun _ => warned (succeeds_say _)

/-- A report is accepted exactly if the checks around the run, if there were any, are clean. -/
theorem completes_judge {report : Report} {c : Console} :
    Completes (judge report) c ↔ ∀ v, report.verification = some v → v.verdict = .clean := by
  unfold judge
  cases report.verification with
  | none => simpa using Succeeds.pure () c
  | some v =>
    cases verdict : v.verdict with
    | clean => simpa [verdict] using Succeeds.pure () c
    | regressed => simpa [verdict] using not_completes_throw (α := Unit) (.regressed v report.source) c
    | unknown => simpa [verdict] using not_completes_throw (α := Unit) (.inconclusive v) c

end Cleave.Command
