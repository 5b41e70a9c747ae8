import Cleave.Disk.World
import Cleave.Proofs.Disk.Frame

/-!
# Runs of actions

A run of an action is taken apart into the runs of its parts. Every access either fails, and then leaves the disk
alone or a torn write behind, or does to the disk what it is for; whatever strikes it, it stays in its frame.
-/

namespace Cleave

namespace World

/-- The same world, one access later. -/
def next (w : World) : World :=
  { w with faults := w.faults.drop 1 }

/-- The `n`-th of the coming accesses is not struck. -/
def Spares (w : World) (n : Nat) : Prop :=
  w.faults[n]?.join = none

theorem spares_next {w : World} {n : Nat} : w.next.Spares n ↔ w.Spares (n + 1) := by
  rw [Spares, Spares, next, List.getElem?_drop, Nat.add_comm]

/-- The path leads to a regular file with this content. -/
def Holds (w : World) (p : Path) (content : Bytes) : Prop :=
  w.disk.stat w.cwd p = .ok (.file content)

/-- The content of the regular file at the location that a path denotes. -/
def content? (w : World) (p : Path) : Option Bytes :=
  (p.resolve? w.cwd).bind w.disk.fileAt?

/-- The text that is read where a path leads. -/
def text? (w : World) (p : Path) : Option Text :=
  (w.disk.read w.cwd p).toOption.bind Utf8.decode?

theorem text?_eq_some_iff {w : World} {p : Path} {t : Text} :
    w.text? p = some t ↔ ∃ b, w.disk.read w.cwd p = .ok b ∧ Utf8.decode? b = some t := by
  cases read : w.disk.read w.cwd p <;> simp [text?, read, Except.toOption]

/-- Only touched places of the disk change. -/
structure Frame (w : World) (touched : List Location) (w' : World) : Prop where
  cwd : w'.cwd = w.cwd
  disk : Disk.Frame touched w.disk w'.disk

namespace Frame

variable {w w' w'' : World} {touched touched' : List Location}

theorem refl (touched : List Location) (w : World) : w.Frame touched w :=
  ⟨rfl, .refl _ _⟩

theorem faults (touched : List Location) (w : World) (faults : List (Option Fault)) :
    w.Frame touched { w with faults } :=
  ⟨rfl, .refl _ _⟩

theorem trans (first : w.Frame touched w') (second : w'.Frame touched w'') : w.Frame touched w'' :=
  ⟨second.cwd.trans first.cwd, first.disk.trans second.disk⟩

theorem mono (frame : w.Frame touched w') (within : touched ⊆ touched') : w.Frame touched' w' :=
  ⟨frame.cwd, frame.disk.mono within⟩

theorem content? {p : Path} (frame : w.Frame touched w') (out : p.locationFrom w.cwd ∉ touched) :
    w'.content? p = w.content? p := by
  rw [World.content?, World.content?, frame.cwd, Path.resolve?]
  split
  · rfl
  · exact frame.disk.fileAt? out

theorem holds {p : Path} {content : Bytes} (frame : w.Frame touched w') (links : w.disk.LinkFree)
    (out : p.locationFrom w.cwd ∉ touched) (holds : w.Holds p content) : w'.Holds p content := by
  rw [Holds, frame.cwd]
  exact frame.disk.stat links out holds

end Frame

end World

namespace Effect

variable {ε ε' α β : Type} {w w' : World} {p q : Path}

/-! ## Taking runs apart -/

theorem run_of_fst {a : Effect ε α} {r : Except ε α} (ends : (a.run w).1 = r) : a.run w = (r, (a.run w).2) :=
  Prod.ext ends rfl

theorem run_pure {x : α} {r : Except ε α} (run : (pure x : Effect ε α).run w = (r, w')) : r = .ok x ∧ w' = w := by
  cases run
  exact ⟨rfl, rfl⟩

theorem run_throw {e : ε} {r : Except ε α} (run : (throw e : Effect ε α).run w = (r, w')) :
    r = .error e ∧ w' = w := by
  cases run
  exact ⟨rfl, rfl⟩

theorem run_bind {a : Effect ε α} {f : α → Effect ε β} {r : Except ε β} (run : (a >>= f).run w = (r, w')) :
    (∃ e, a.run w = (.error e, w') ∧ r = .error e) ∨ ∃ x m, a.run w = (.ok x, m) ∧ (f x).run m = (r, w') := by
  replace run : ExceptT.bindCont f (a.run w).1 (a.run w).2 = (r, w') := run
  generalize a.run w = out at run ⊢
  obtain ⟨s, m⟩ := out
  cases s with
  | error e =>
    cases run
    exact .inl ⟨e, rfl, rfl⟩
  | ok x => exact .inr ⟨x, m, rfl, run⟩

theorem run_bind_of_ok {σ : Type} {a : ExceptT ε (StateM σ) α} {f : α → ExceptT ε (StateM σ) β} {s s' : σ} {x : α}
    (first : a.run s = (.ok x, s')) : (a >>= f).run s = (f x).run s' := by
  change ExceptT.bindCont f (a.run s).1 (a.run s).2 = (f x).run s'
  rw [first]
  rfl

theorem run_bind_of_error {a : Effect ε α} {f : α → Effect ε β} {e : ε} (failed : a.run w = (.error e, w')) :
    (a >>= f).run w = (.error e, w') := by
  change ExceptT.bindCont f (a.run w).1 (a.run w).2 = (.error e, w')
  rw [failed]
  rfl

theorem exists_of_run_bind {σ : Type} {a : ExceptT ε (StateM σ) α} {f : α → ExceptT ε (StateM σ) β} {s s' : σ} {y : β}
    (run : (a >>= f).run s = (.ok y, s')) : ∃ x m, a.run s = (.ok x, m) ∧ (f x).run m = (.ok y, s') := by
  replace run : ExceptT.bindCont f (a.run s).1 (a.run s).2 = (.ok y, s') := run
  generalize a.run s = out at run ⊢
  obtain ⟨r, m⟩ := out
  cases r with
  | error e => cases run
  | ok x => exact ⟨x, m, rfl, run⟩

theorem run_result {a : Effect ε α} {r : Except ε' (Except ε α)}
    (run : (result a : Effect ε' (Except ε α)).run w = (r, w')) : ∃ s, a.run w = (s, w') ∧ r = .ok s := by
  replace run : ((.ok (a.run w).1, (a.run w).2) : Except ε' (Except ε α) × World) = (r, w') := run
  cases run
  exact ⟨_, rfl, rfl⟩

theorem run_result_of {a : Effect ε α} {s : Except ε α} (ends : a.run w = (s, w')) :
    (result a : Effect ε' (Except ε α)).run w = (.ok s, w') := by
  change (Except.ok (a.run w).1, (a.run w).2) = (.ok s, w')
  rw [ends]

theorem run_bind_result {a : Effect ε α} {f : Except ε α → Effect ε' β} {r : Except ε' β}
    (run : (result a >>= f).run w = (r, w')) : ∃ s m, a.run w = (s, m) ∧ (f s).run m = (r, w') := by
  rcases run_bind run with ⟨e, failed, -⟩ | ⟨s, m, done, rest⟩
  · obtain ⟨s, -, same⟩ := run_result failed
    cases same
  · obtain ⟨s, inner, same⟩ := run_result done
    cases same
    exact ⟨s, m, inner, rest⟩

theorem run_adapt {f : ε → ε'} {a : Effect ε α} {r : Except ε' α} (run : (adapt f a).run w = (r, w')) :
    ∃ s, a.run w = (s, w') ∧ r = s.mapError f := by
  replace run : (((a.run w).1.mapError f, (a.run w).2) : Except ε' α × World) = (r, w') := run
  cases run
  exact ⟨_, rfl, rfl⟩

theorem run_adapt_of_ok {f : ε → ε'} {a : Effect ε α} {x : α} (done : a.run w = (.ok x, w')) :
    (adapt f a).run w = (.ok x, w') := by
  change ((a.run w).1.mapError f, (a.run w).2) = (.ok x, w')
  rw [done]
  rfl

theorem run_adapt_of_error {f : ε → ε'} {a : Effect ε α} {e : ε} (failed : a.run w = (.error e, w')) :
    (adapt f a).run w = (.error (f e), w') := by
  change ((a.run w).1.mapError f, (a.run w).2) = (.error (f e), w')
  rw [failed]
  rfl

theorem run_bind_adapt {g : ε → ε'} {a : Effect ε α} {f : α → Effect ε' β} {r : Except ε' β}
    (run : (adapt g a >>= f).run w = (r, w')) :
    (∃ e, a.run w = (.error e, w') ∧ r = .error (g e)) ∨ ∃ x m, a.run w = (.ok x, m) ∧ (f x).run m = (r, w') := by
  rcases run_bind run with ⟨e, failed, rfl⟩ | ⟨x, m, done, rest⟩
  · obtain ⟨s, inner, same⟩ := run_adapt failed
    cases s with
    | error e' =>
      cases same
      exact .inl ⟨e', inner, rfl⟩
    | ok x => cases same
  · obtain ⟨s, inner, same⟩ := run_adapt done
    cases s with
    | error e' => cases same
    | ok x' =>
      cases same
      exact .inr ⟨x, m, inner, rest⟩

theorem run_inspect {f : World → Except ε α} {r : Except ε α} (run : (inspect f).run w = (r, w')) :
    r = f w ∧ w' = w := by
  cases run
  exact ⟨rfl, rfl⟩

/-- An access that is not struck does what it is for, if it can. -/
theorem run_access_of_spares {f : World → Except DiskError (α × Disk)} {torn : Nat → World → Disk}
    (spared : w.Spares 0) :
    (access f torn).run w =
      match f w with
      | .ok (x, disk) => (.ok x, { w.next with disk })
      | .error e => (.error e, w.next) := by
  obtain ⟨disk, cwd, faults⟩ := w
  rcases faults with _ | ⟨_ | fault, faults⟩
  · rfl
  · rfl
  · cases spared

/-- An access is struck, or it fails by itself, or it is done. -/
theorem run_access {f : World → Except DiskError (α × Disk)} {torn : Nat → World → Disk} {r : Except DiskError α}
    (run : (access f torn).run w = (r, w')) :
    (∃ fault : Fault, ¬ w.Spares 0 ∧ r = .error fault.error ∧
        w' = { w.next with disk := (fault.kept.map (torn · w)).getD w.disk }) ∨
      (∃ e, f w = .error e ∧ r = .error e ∧ w' = w.next) ∨
      ∃ x disk, f w = .ok (x, disk) ∧ r = .ok x ∧ w' = { w.next with disk } := by
  by_cases spared : w.Spares 0
  · rw [run_access_of_spares spared] at run
    right
    split at run
    · rename_i x disk done
      cases run
      exact .inr ⟨x, disk, done, rfl, rfl⟩
    · rename_i e failed
      cases run
      exact .inl ⟨e, failed, rfl, rfl⟩
  · left
    obtain ⟨disk, cwd, faults⟩ := w
    rcases faults with _ | ⟨_ | fault, faults⟩
    · exact absurd rfl spared
    · exact absurd rfl spared
    · cases run
      exact ⟨fault, spared, rfl, rfl⟩

/-! ## Accesses -/

theorem map_eq_ok {x : Except ε α} {f : α → β} {b : β} (done : x.map f = .ok b) : ∃ a, x = .ok a ∧ f a = b := by
  cases x with
  | error e => cases done
  | ok a => exact ⟨a, rfl, Except.ok.inj done⟩

theorem map_eq_error {x : Except ε α} {f : α → β} {e : ε} (failed : x.map f = .error e) : x = .error e := by
  cases x with
  | error e' => exact congrArg _ (Except.error.inj failed)
  | ok a => cases failed

theorem run_look {f : World → Except DiskError α} {r : Except DiskError α} (run : (look f).run w = (r, w')) :
    w' = w.next ∧ (∀ x, r = .ok x → f w = .ok x) ∧ (w.Spares 0 → r = f w) := by
  rcases run_access run with ⟨fault, struck, rfl, rfl⟩ | ⟨e, failed, rfl, rfl⟩ | ⟨x, disk, done, rfl, rfl⟩
  · refine ⟨?_, by simp, fun spared => absurd spared struck⟩
    cases fault.kept <;> rfl
  · exact ⟨rfl, by simp, fun _ => (map_eq_error failed).symm⟩
  · obtain ⟨y, answer, same⟩ := map_eq_ok done
    cases same
    exact ⟨rfl, fun x same => same ▸ answer, fun _ => answer.symm⟩

theorem run_change {f : World → Except DiskError Disk} {r : Except DiskError Unit}
    (run : (change f).run w = (r, w')) :
    w'.cwd = w.cwd ∧ ((∃ e, r = .error e) ∧ w'.disk = w.disk ∨ r = .ok () ∧ f w = .ok w'.disk) := by
  rcases run_access run with ⟨fault, -, rfl, rfl⟩ | ⟨e, -, rfl, rfl⟩ | ⟨x, disk, done, rfl, rfl⟩
  · refine ⟨rfl, .inl ⟨⟨_, rfl⟩, ?_⟩⟩
    cases fault.kept <;> rfl
  · exact ⟨rfl, .inl ⟨⟨e, rfl⟩, rfl⟩⟩
  · obtain ⟨disk', changed, same⟩ := map_eq_ok done
    cases same
    exact ⟨rfl, .inr ⟨rfl, changed⟩⟩

theorem run_changeBy {content : Bytes} {f : Bytes → World → Except DiskError Disk} {r : Except DiskError Unit}
    (run : (changeBy content f).run w = (r, w')) :
    w'.cwd = w.cwd ∧
      ((∃ e, r = .error e) ∧ (w'.disk = w.disk ∨ ∃ n, f (content.take n) w = .ok w'.disk) ∨
        r = .ok () ∧ f content w = .ok w'.disk) := by
  rcases run_access run with ⟨fault, -, rfl, rfl⟩ | ⟨e, -, rfl, rfl⟩ | ⟨x, disk, done, rfl, rfl⟩
  · refine ⟨rfl, .inl ⟨⟨_, rfl⟩, ?_⟩⟩
    cases fault.kept with
    | none => exact .inl rfl
    | some n =>
      cases torn : f (content.take n) w with
      | error e => exact .inl (by simp [torn])
      | ok disk => exact .inr ⟨n, by simp [torn]⟩
  · exact ⟨rfl, .inl ⟨⟨e, rfl⟩, .inl rfl⟩⟩
  · obtain ⟨disk', changed, same⟩ := map_eq_ok done
    cases same
    exact ⟨rfl, .inr ⟨rfl, changed⟩⟩

theorem run_readFile {r : Except DiskError Bytes} (run : (readFile p).run w = (r, w')) :
    w' = w.next ∧ ∀ b, r = .ok b → w.disk.read w.cwd p = .ok b := by
  obtain ⟨after, known, -⟩ := run_look run
  exact ⟨after, known⟩

theorem run_readText {r : Except DiskError Text} (run : (readText p).run w = (r, w')) :
    w' = w.next ∧ ∀ t, r = .ok t → w.text? p = some t := by
  rcases run_bind run with ⟨e, failed, rfl⟩ | ⟨b, m, done, rest⟩
  · exact ⟨(run_readFile failed).1, by simp⟩
  · obtain ⟨rfl, known⟩ := run_readFile done
    split at rest
    · rename_i t decoded
      obtain ⟨rfl, rfl⟩ := run_pure rest
      refine ⟨rfl, fun t' same => ?_⟩
      cases same
      exact World.text?_eq_some_iff.mpr ⟨b, known b rfl, decoded⟩
    · obtain ⟨rfl, rfl⟩ := run_throw rest
      exact ⟨rfl, by simp⟩

/-- A query always answers, and unless it is struck it tells the truth. -/
theorem run_query {test : Node → Bool} {r : Except ε Bool} (run : (query test p : Effect ε Bool).run w = (r, w')) :
    ∃ answer, r = .ok answer ∧ w' = w.next ∧
      (answer = true → ∃ n, w.disk.stat w.cwd p = .ok n ∧ test n = true) ∧
      (w.Spares 0 → ∀ n, w.disk.stat w.cwd p = .ok n → answer = test n) := by
  obtain ⟨s, m, looked, rest⟩ := run_bind_result run
  obtain ⟨rfl, known, truly⟩ := run_look looked
  cases s with
  | error e =>
    obtain ⟨rfl, rfl⟩ := run_pure rest
    refine ⟨false, rfl, rfl, by simp, fun spared n found => ?_⟩
    rw [found] at truly
    cases truly spared
  | ok n =>
    obtain ⟨rfl, rfl⟩ := run_pure rest
    have found := known n rfl
    refine ⟨test n, rfl, rfl, fun holds => ⟨n, found, holds⟩, fun _ n' found' => ?_⟩
    cases found.symm.trans found'
    rfl

/-- A copy is made of a regular file, and it is written like any file. -/
theorem run_copyFile {r : Except DiskError Unit} (run : (copyFile p q).run w = (r, w')) :
    w'.cwd = w.cwd ∧
      ((∃ e, r = .error e) ∧ (w'.disk = w.disk ∨ ∃ content, w.disk.write w.cwd q content = .ok w'.disk) ∨
        r = .ok () ∧ ∃ content, w.disk.stat w.cwd p = .ok (.file content) ∧
          w.disk.write w.cwd q content = .ok w'.disk) := by
  simp only [copyFile, ExceptT.run_mk] at run
  split at run
  · rename_i content found
    obtain ⟨cwd, ⟨failed, same | ⟨n, torn⟩⟩ | ⟨done, written⟩⟩ := run_changeBy run
    · exact ⟨cwd, .inl ⟨failed, .inl same⟩⟩
    · exact ⟨cwd, .inl ⟨failed, .inr ⟨_, torn⟩⟩⟩
    · exact ⟨cwd, .inr ⟨done, content, found, written⟩⟩
  · rename_i other
    obtain ⟨cwd, ⟨failed, same⟩ | ⟨-, copied⟩⟩ := run_change run
    · exact ⟨cwd, .inl ⟨failed, .inl same⟩⟩
    · rw [Disk.copy] at copied
      split at copied
      · cases copied
      · rename_i content found
        exact absurd found (other content)
      · cases copied

/-! ## Actions that only make directories -/

/-- However it ends, the action changes nothing, except that directories may appear in empty places. -/
def Grows (a : Effect ε α) : Prop :=
  ∀ w r w', a.run w = (r, w') → w.Frame [] w'

namespace Grows

variable {a : Effect ε α} {f : α → Effect ε β}

theorem pure (x : α) : (Pure.pure x : Effect ε α).Grows := by
  intro w r w' run
  obtain ⟨-, rfl⟩ := run_pure run
  exact .refl _ _

theorem throw (e : ε) : (MonadExcept.throw e : Effect ε α).Grows := by
  intro w r w' run
  obtain ⟨-, rfl⟩ := run_throw run
  exact .refl _ _

theorem bind (first : a.Grows) (second : ∀ x, (f x).Grows) : (a >>= f).Grows := by
  intro w r w' run
  rcases run_bind run with ⟨e, failed, -⟩ | ⟨x, m, done, rest⟩
  · exact first w _ w' failed
  · exact (first w _ m done).trans (second x m r w' rest)

theorem result (grows : a.Grows) : (result a : Effect ε' (Except ε α)).Grows := by
  intro w r w' run
  obtain ⟨s, inner, -⟩ := run_result run
  exact grows w s w' inner

theorem adapt (g : ε → ε') (grows : a.Grows) : (adapt g a).Grows := by
  intro w r w' run
  obtain ⟨s, inner, -⟩ := run_adapt run
  exact grows w s w' inner

theorem inspect (g : World → Except ε α) : (inspect g).Grows := by
  intro w r w' run
  obtain ⟨-, rfl⟩ := run_inspect run
  exact .refl _ _

theorem look (g : World → Except DiskError α) : (look g).Grows := by
  intro w r w' run
  obtain ⟨rfl, -⟩ := run_look run
  exact .faults _ _ _

theorem query (test : Node → Bool) (p : Path) : (query test p : Effect ε Bool).Grows := by
  refine bind (look _).result fun s => ?_
  cases s with
  | ok n => exact pure _
  | error e => exact pure _

theorem makeDir (p : Path) : (makeDir p).Grows := by
  intro w r w' run
  obtain ⟨cwd, ⟨-, same⟩ | ⟨-, done⟩⟩ := run_change run
  · exact ⟨cwd, same ▸ .refl _ _⟩
  · exact ⟨cwd, .makeDir done⟩

theorem throwUnlessDir (e : DiskError) (p : Path) :
    (do if !(← isDir p) then MonadExcept.throw e : Effect DiskError Unit).Grows := by
  refine bind (query _ p) fun found => ?_
  cases found with
  | true => exact pure _
  | false => exact throw _

theorem ensureDir (p : Path) : (ensureDir p).Grows := by
  refine bind (makeDir p).result fun made => ?_
  cases made with
  | ok _ => exact pure _
  | error e => exact throwUnlessDir e p

theorem ensureDirs (ps : List Path) : (ensureDirs ps).Grows := by
  induction ps with
  | nil => exact pure _
  | cons p above ih =>
    rw [Effect.ensureDirs]
    split
    · exact pure _
    · refine bind (makeDir p).result fun made => ?_
      split
      · exact pure _
      · exact bind ih fun _ => ensureDir p
      · exact throwUnlessDir _ p

end Grows

/-! ## What an action touches -/

/-- However it ends, the action stays in the frame of some paths. -/
def Touches (a : Effect ε α) (paths : List Path) : Prop :=
  ∀ w r w', w.disk.LinkFree → a.run w = (r, w') → w.Frame (paths.map (Path.locationFrom w.cwd)) w'

theorem Grows.touches {a : Effect ε α} (grows : a.Grows) (paths : List Path) : a.Touches paths :=
  fun w r w' _ run => (grows w r w' run).mono (List.nil_subset _)

namespace Touches

variable {a : Effect ε α} {f : α → Effect ε β} {paths paths' : List Path}

theorem mono (touches : a.Touches paths) (within : paths ⊆ paths') : a.Touches paths' :=
  fun w r w' links run => (touches w r w' links run).mono (List.map_subset _ within)

/-- A run of the action goes on with a frame. -/
theorem after {w w' m : World} {r : Except ε α} (touches : a.Touches paths) (links : w.disk.LinkFree)
    (before : w.Frame (paths.map (Path.locationFrom w.cwd)) m) (run : a.run m = (r, w')) :
    w.Frame (paths.map (Path.locationFrom w.cwd)) w' := by
  refine before.trans ?_
  rw [← before.cwd]
  exact touches m r w' (before.disk.links links) run

theorem pure (x : α) (paths : List Path) : (Pure.pure x : Effect ε α).Touches paths :=
  (Grows.pure x).touches paths

theorem throw (e : ε) (paths : List Path) : (MonadExcept.throw e : Effect ε α).Touches paths :=
  (Grows.throw e).touches paths

theorem bind (first : a.Touches paths) (second : ∀ x, (f x).Touches paths) : (a >>= f).Touches paths := by
  intro w r w' links run
  rcases run_bind run with ⟨e, failed, -⟩ | ⟨x, m, done, rest⟩
  · exact first w _ w' links failed
  · exact (second x).after links (first w _ m links done) rest

theorem result (touches : a.Touches paths) : (result a : Effect ε' (Except ε α)).Touches paths := by
  intro w r w' links run
  obtain ⟨s, inner, -⟩ := run_result run
  exact touches w s w' links inner

theorem adapt (g : ε → ε') (touches : a.Touches paths) : (adapt g a).Touches paths := by
  intro w r w' links run
  obtain ⟨s, inner, -⟩ := run_adapt run
  exact touches w s w' links inner

theorem inspect (g : World → Except ε α) (paths : List Path) : (inspect g).Touches paths :=
  (Grows.inspect g).touches paths

theorem look (g : World → Except DiskError α) (paths : List Path) : (look g).Touches paths :=
  (Grows.look g).touches paths

theorem query (test : Node → Bool) (p : Path) (paths : List Path) : (query test p : Effect ε Bool).Touches paths :=
  (Grows.query test p).touches paths

theorem writeFile (p : Path) (content : Bytes) : (writeFile p content).Touches [p] := by
  intro w r w' links run
  obtain ⟨cwd, ⟨-, same | ⟨n, torn⟩⟩ | ⟨-, done⟩⟩ := run_changeBy run
  · exact ⟨cwd, same ▸ .refl _ _⟩
  · exact ⟨cwd, .write links torn⟩
  · exact ⟨cwd, .write links done⟩

theorem copyFile (p q : Path) : (copyFile p q).Touches [q] := by
  intro w r w' links run
  obtain ⟨cwd, ⟨-, same | ⟨content, torn⟩⟩ | ⟨-, content, -, done⟩⟩ := run_copyFile run
  · exact ⟨cwd, same ▸ .refl _ _⟩
  · exact ⟨cwd, .write links torn⟩
  · exact ⟨cwd, .write links done⟩

theorem rename {p : Path} (apart : ∀ cwd, p.locationFrom cwd ≠ Disk.nullPlace) (q : Path) :
    (rename p q).Touches [p, q] := by
  intro w r w' links run
  obtain ⟨cwd, ⟨-, same⟩ | ⟨-, done⟩⟩ := run_change run
  · exact ⟨cwd, same ▸ .refl _ _⟩
  · exact ⟨cwd, .rename links (apart w.cwd) done⟩

theorem removeFile (p : Path) : (removeFile p).Touches [p] := by
  intro w r w' links run
  obtain ⟨cwd, ⟨-, same⟩ | ⟨-, done⟩⟩ := run_change run
  · exact ⟨cwd, same ▸ .refl _ _⟩
  · exact ⟨cwd, .remove links done⟩

end Touches

end Effect

end Cleave
