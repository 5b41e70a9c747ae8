import Cleave.Proofs.Commit.Run
import Cleave.Proofs.Disk.Change

/-!
# All or nothing

On any disk, with links or without, a replacement that fails changes at most the place that the temporary path names, and
one that succeeds puts the whole content in the place that the path names (`replaceFile_all_or_nothing`). Only a link, a
device or a file with several names at the temporary path is in the way: the content goes through it, and then it takes
the place of the file (`temp_link_is_followed`).
-/

namespace Cleave

/-- The place that a path names. -/
def World.named? (w : World) (p : Path) : Option Location :=
  w.disk.named? w.cwd p

/-- A path names a directory or a regular file with one name, if anything. -/
def World.Direct (w : World) (p : Path) : Prop :=
  w.disk.Direct w.cwd p

/-- A path that names an empty place names no link and no device. -/
theorem World.direct_of_missing {w : World} {p : Path} {l : Location} (named : w.named? p = some l)
    (missing : w.disk.get? l = none) (single : w.disk.shared.lookup l = none) : w.Direct p := by
  intro k named'
  obtain rfl := Option.some.inj (named.symm.trans named')
  exact ⟨by simp [missing], single⟩

/-- A place that a path names and that holds a regular file is read by the path. -/
theorem World.holds_of_named {w : World} {p : Path} {l : Location} {content : Bytes} (named : w.named? p = some l)
    (held : w.disk.fileAt? l = some content) : w.Holds p content := by
  have found : w.disk.get? l = some (.file content) := by
    rw [Disk.fileAt?] at held
    split at held
    · rename_i here
      rw [here, Option.some.inj held]
    · cases held
  exact Disk.stat_eq_ok_iff_place.mpr ⟨l, Disk.place_of_named named (by simp [found]), found⟩

namespace Commit

open Effect

variable {w m m' w' : World} {p : Path} {content : Bytes} {s r : Except WriteError Unit}

/-! ## Steps of a replacement -/

theorem putInPlace_failed {e : WriteError} (direct : m.Direct (tempPath p))
    (run : (putInPlace p content).run m = (.error e, m')) :
    m'.cwd = m.cwd ∧ Disk.Alters (m.named? (tempPath p)) m.disk m'.disk := by
  obtain ⟨cwd, ⟨-, same | ⟨part, torn⟩⟩ | ⟨done, -⟩⟩ := run_putInPlace run
  · exact ⟨cwd, same ▸ .refl _ _⟩
  · obtain ⟨k, named, below, plain, after⟩ := Disk.write_direct direct torn
    rw [World.named?, named, after]
    exact ⟨cwd, .set below plain part⟩
  · cases done

/-- A file that is put in its place comes from where the temporary path leads, and nothing is left there. -/
theorem putInPlace_done (direct : m.Direct (tempPath p)) (run : (putInPlace p content).run m = (.ok (), m')) :
    m'.cwd = m.cwd ∧ ∃ k l, m.named? (tempPath p) = some k ∧ m.named? p = some l ∧
      Disk.Puts content k l m.disk m'.disk := by
  obtain ⟨cwd, ⟨⟨e, failed⟩, -⟩ | ⟨-, d, written, renamed⟩⟩ := run_putInPlace run
  · cases failed
  · obtain ⟨k, named, below, plain, after⟩ := Disk.write_direct direct written
    have alters : Disk.Alters (some k) m.disk d := after ▸ .set below plain content
    obtain ⟨k', l, n, temp, target, found, -, ends⟩ := Disk.rename_at_entries renamed
    rw [alters.named?_eq] at temp target
    -- the written file is still what the temporary path names
    obtain rfl : k = k' := Option.some.inj (named.symm.trans temp)
    rw [after, Disk.get?_set below, if_pos rfl] at found
    obtain rfl := Option.some.inj found
    refine ⟨cwd, k, l, named, target, ?_⟩
    rcases ends (alters.shared ▸ plain.single) with ⟨rfl, -⟩ | ⟨apart, closed, moved⟩
    · exact absurd target (Disk.named?_append_ne ending_temp named)
    · rw [after, Disk.get?_set below, if_neg apart.symm] at closed
      refine ⟨apart, plain, closed, fun x => ?_⟩
      rw [moved, Disk.get?_set (Disk.ne_root_of_get? closed), Disk.get?_erase below, after, Disk.get?_set below]
      by_cases gone : x = k <;> simp [gone]

/-- A temporary path that names no link and no device names nothing once it is removed. -/
theorem run_clear {t : Except DiskError Unit} (direct : m.Direct (tempPath p))
    (run : (removeFile (tempPath p)).run m = (t, m')) :
    m'.cwd = m.cwd ∧ Disk.Alters (m.named? (tempPath p)) m.disk m'.disk ∧
      (t = .ok () → ∀ k, m.named? (tempPath p) = some k → m'.disk.get? k = none) := by
  obtain ⟨cwd, ⟨⟨e, rfl⟩, same⟩ | ⟨-, done⟩⟩ := run_change run
  · exact ⟨cwd, same ▸ .refl _ _, by simp⟩
  · obtain ⟨k, named, below, plain, after⟩ := Disk.remove_direct direct done
    rw [World.named?, named, after]
    refine ⟨cwd, .erase below plain, fun _ l same => ?_⟩
    cases same
    rw [Disk.get?_erase below, if_pos rfl]

/-! ## All or nothing -/

/-- What is left when a file is replaced, with `m` the world once the parent directories were made or not, and `s` how
that ended. -/
structure AllOrNothing (p : Path) (content : Bytes) (w m : World) (s r : Except WriteError Unit) (w' : World) :
    Prop where
  /-- Without its parent directories the replacement ends, and no regular file changes. -/
  unready : ∀ e, s = .error e → r = .error e ∧ w' = m ∧ ∀ l, w'.disk.fileAt? l = w.disk.fileAt? l
  /-- A failure leaves the content at the path as it was, and every path leads where it led. -/
  kept : ∀ e, r = .error e → (∀ l, m.named? p = some l → w'.disk.fileAt? l = w.disk.fileAt? l) ∧
    ∀ q l, w.disk.place w.cwd q = .ok l → w'.disk.place w'.cwd q = .ok l
  /-- A success puts exactly the content at the path. It is read there, unless a link was replaced that the path itself
  went through. -/
  placed : r = .ok () → ∃ l, m.named? p = some l ∧ w'.disk.fileAt? l = some content ∧
    ((∀ target, m.disk.get? l ≠ some (.link target)) ∨ w'.named? p = some l → w'.Holds p content)
  /-- A success moves the temporary file away. -/
  moved : r = .ok () → ∀ l, m.named? (tempPath p) = some l → w'.disk.get? l = none
  /-- A failure after the parent directories were made ends with the removal of the temporary file, which is gone if
  that succeeds. -/
  cleared : ∀ e, r = .error e → s = .ok () → ∃ m' t, (putInPlace p content).run m = (.error e, m') ∧
    (removeFile (tempPath p)).run m' = (t, w') ∧
      (t = .ok () → ∀ l, m.named? (tempPath p) = some l → w'.disk.get? l = none)
  /-- No directory goes, also not one at the temporary path. -/
  dirs : w.disk.KeepsDirs w'.disk
  /-- No other regular file changes. -/
  others : ∀ l, m.named? p ≠ some l → m.named? (tempPath p) ≠ some l → w'.disk.fileAt? l = w.disk.fileAt? l

theorem temp_ne_named {l : Location} (target : m.named? p = some l) : m.named? (tempPath p) ≠ some l :=
  fun temp => Disk.named?_append_ne ending_temp temp target

theorem allOrNothing_unready {e : WriteError} (failed : (ensureParent p).run w = (.error e, m)) :
    AllOrNothing p content w m (.error e) (.error e) m := by
  have grown := grows_ensureParent p w _ m failed
  have same (l : Location) : m.disk.fileAt? l = w.disk.fileAt? l := grown.disk.fileAt? List.not_mem_nil
  constructor
  case unready =>
    intro e' failed
    exact ⟨failed, rfl, same⟩
  case kept =>
    intro e' _
    refine ⟨fun l _ => same l, fun q l leads => ?_⟩
    rw [grown.cwd]
    exact grown.disk.keepsWays.place leads
  case dirs => exact grown.disk.dirs
  case others => exact fun l _ _ => same l
  all_goals simp

theorem allOrNothing_undone {e : WriteError} {t : Except DiskError Unit} (ready : (ensureParent p).run w = (.ok (), m))
    (direct : m.Direct (tempPath p)) (failed : (putInPlace p content).run m = (.error e, m'))
    (cleared : (removeFile (tempPath p)).run m' = (t, w')) : AllOrNothing p content w m (.ok ()) (.error e) w' := by
  have grown := grows_ensureParent p w _ m ready
  have same (l : Location) : m.disk.fileAt? l = w.disk.fileAt? l := grown.disk.fileAt? List.not_mem_nil
  obtain ⟨cwd, tried⟩ := putInPlace_failed direct failed
  -- no way has changed, so the removal is at the place where the file was written
  have temp : m'.named? (tempPath p) = m.named? (tempPath p) := by
    rw [World.named?, cwd, tried.named?_eq, World.named?]
  have direct' : m'.Direct (tempPath p) := by
    rw [World.Direct, cwd]
    exact tried.direct direct
  obtain ⟨cwd', removed, gone⟩ := run_clear direct' cleared
  rw [temp] at removed gone
  have alters := tried.trans removed
  constructor
  case kept =>
    intro e' _
    refine ⟨fun l target => (alters.fileAt?_of_ne (temp_ne_named target)).trans (same l), fun q l leads => ?_⟩
    rw [cwd', cwd, grown.cwd]
    exact (grown.disk.keepsWays.trans alters.keepsWays).place leads
  case cleared =>
    intro e' failed' _
    obtain rfl := Except.error.inj failed'
    exact ⟨m', t, failed, cleared, gone⟩
  case dirs => exact (grown.disk.keepsWays.trans alters.keepsWays).dirs
  case others => exact fun l _ away => (alters.fileAt?_of_ne away).trans (same l)
  all_goals simp

theorem allOrNothing_done (ready : (ensureParent p).run w = (.ok (), m)) (direct : m.Direct (tempPath p))
    (placed : (putInPlace p content).run m = (.ok (), w')) : AllOrNothing p content w m (.ok ()) (.ok ()) w' := by
  have grown := grows_ensureParent p w _ m ready
  obtain ⟨cwd, k, l, temp, target, puts⟩ := putInPlace_done direct placed
  constructor
  case placed =>
    intro _
    refine ⟨l, target, puts.held, ?_⟩
    rintro (unlinked | named)
    · refine World.holds_of_named ?_ puts.held
      rw [World.named?, cwd]
      exact (puts.keepsWays unlinked).named? target
    · exact World.holds_of_named named puts.held
  case moved =>
    intro _ x temp'
    obtain rfl := Option.some.inj (temp.symm.trans temp')
    exact puts.gone
  case dirs => exact fun x found => puts.dirs x (grown.disk.dirs x found)
  case others =>
    intro x off away
    have here : x ≠ l := by
      rintro rfl
      exact off target
    have there : x ≠ k := by
      rintro rfl
      exact away temp
    rw [Disk.fileAt?, puts.get?_of_ne here there]
    exact grown.disk.fileAt? List.not_mem_nil
  all_goals simp

/-- A replacement is all or nothing on any disk and with any failure, unless a link, a device or a file with several names
is at the temporary path once the parent directories are there. -/
theorem replaceFile_all_or_nothing (parents : (ensureParent p).run w = (s, m))
    (direct : s = .ok () → m.Direct (tempPath p)) (run : (replaceFile p content).run w = (r, w')) :
    AllOrNothing p content w m s r w' := by
  cases replaceFile_replaces run with
  | @unready e w' failed =>
    obtain ⟨rfl, rfl⟩ := Prod.mk.inj (parents.symm.trans failed)
    exact allOrNothing_unready failed
  | @undone e m₁ m' w' t ready failed cleared =>
    obtain ⟨rfl, rfl⟩ := Prod.mk.inj (parents.symm.trans ready)
    exact allOrNothing_undone ready (direct rfl) failed cleared
  | @done m₁ w' ready placed =>
    obtain ⟨rfl, rfl⟩ := Prod.mk.inj (parents.symm.trans ready)
    exact allOrNothing_done ready (direct rfl) placed

/-- A disk where a directory is reached through a link. -/
def linkedParent (faults : List (Option Fault)) : World where
  disk := { nodes := [(["out".toList], .dir), (["src".toList], .link ⟨"out".toList⟩),
    (["out".toList, "task.ts".toList], .file [1])] }
  faults

/-- The world of a replacement behind a link once the parent directories are there. -/
def readyParent (faults : List (Option Fault)) : World :=
  ((ensureParent ⟨"src/task.ts".toList⟩).run (linkedParent faults)).2

/-- The third access, which writes the temporary file, stops halfway, or else all goes well. -/
theorem replaceFile_all_or_nothing_sample :
    (∃ w', (replaceFile ⟨"src/task.ts".toList⟩ [2, 3]).run (linkedParent [none, none, some ⟨.noSpace, some 1⟩]) =
        (.error (.write ⟨"src/task.ts.tmp".toList⟩ .noSpace), w') ∧
      w'.disk.fileAt? ["out".toList, "task.ts".toList] = some [1] ∧
      w'.disk.get? ["out".toList, "task.ts.tmp".toList] = none) ∧
    ∃ w', (replaceFile ⟨"src/task.ts".toList⟩ [2, 3]).run (linkedParent []) = (.ok (), w') ∧
      w'.disk.fileAt? ["out".toList, "task.ts".toList] = some [2, 3] ∧
      w'.disk.get? ["out".toList, "task.ts.tmp".toList] = none := by
  constructor
  · have ready : ((ensureParent ⟨"src/task.ts".toList⟩).run (linkedParent [none, none, some ⟨.noSpace, some 1⟩])).1 =
        .ok () := by
      decide +kernel
    have temp : (readyParent [none, none, some ⟨.noSpace, some 1⟩]).named? (tempPath ⟨"src/task.ts".toList⟩) =
        some ["out".toList, "task.ts.tmp".toList] := by
      decide +kernel
    have failed : ((replaceFile ⟨"src/task.ts".toList⟩ [2, 3]).run
        (linkedParent [none, none, some ⟨.noSpace, some 1⟩])).1 =
          .error (.write ⟨"src/task.ts.tmp".toList⟩ .noSpace) := by
      decide +kernel
    have nothing := replaceFile_all_or_nothing (run_of_fst ready)
      (fun _ => World.direct_of_missing temp (by decide +kernel) (by decide +kernel)) (run_of_fst failed)
    obtain ⟨m', t, tried, removed, gone⟩ := nothing.cleared _ rfl rfl
    have cleared : t = .ok () := by
      have after : ((putInPlace ⟨"src/task.ts".toList⟩ [2, 3]).run
          (readyParent [none, none, some ⟨.noSpace, some 1⟩])).2 = m' := congrArg Prod.snd tried
      have ends : ((removeFile (tempPath ⟨"src/task.ts".toList⟩)).run m').1 = t := congrArg Prod.fst removed
      rw [← ends, ← after]
      decide +kernel
    exact ⟨_, run_of_fst failed, (nothing.kept _ rfl).1 _ (by decide +kernel), gone cleared _ temp⟩
  · have ready : ((ensureParent ⟨"src/task.ts".toList⟩).run (linkedParent [])).1 = .ok () := by
      decide +kernel
    have temp : (readyParent []).named? (tempPath ⟨"src/task.ts".toList⟩) =
        some ["out".toList, "task.ts.tmp".toList] := by
      decide +kernel
    have place : (readyParent []).named? ⟨"src/task.ts".toList⟩ = some ["out".toList, "task.ts".toList] := by
      decide +kernel
    have done : ((replaceFile ⟨"src/task.ts".toList⟩ [2, 3]).run (linkedParent [])).1 = .ok () := by
      decide +kernel
    have all := replaceFile_all_or_nothing (run_of_fst ready)
      (fun _ => World.direct_of_missing temp (by decide +kernel) (by decide +kernel)) (run_of_fst done)
    obtain ⟨l, target, held, -⟩ := all.placed rfl
    obtain rfl := Option.some.inj (place.symm.trans target)
    exact ⟨_, run_of_fst done, held, all.moved rfl _ temp⟩

/-- A disk with two files and something at the temporary path of the first. -/
def tempTaken (source temp : Node) (faults : List (Option Fault)) : World where
  disk := { nodes := [(["db.ts".toList], source), (["other.ts".toList], .file [3]), (["db.ts.tmp".toList], temp)] }
  faults

/-- A disk with two files. -/
def twoFiles (faults : List (Option Fault)) : World where
  disk.nodes := [(["db.ts".toList], .file [1]), (["other.ts".toList], .file [3])]
  faults

/-- The result of a replacement, and what a path leads to afterwards. -/
def leadsAfter (p : Path) (q : Path) (w : World) : Except WriteError Unit × Except DiskError Node :=
  let (r, w') := (replaceFile p [2]).run w
  (r, w'.disk.stat w'.cwd q)

/-- A link or a device at the temporary path is written through, and then it takes the place of the file: a success can
lose the file or change another one, and a failure can change the file. So can a second name of a file. A path that is
read through a link can lead to its temporary file, and one that is read before its directories are there can lead to
nothing. -/
theorem temp_link_is_followed :
    leadsAfter ⟨"db.ts".toList⟩ ⟨"db.ts".toList⟩ (tempTaken (.file [1]) (.link ⟨"db.ts".toList⟩) []) =
        (.ok (), .error .tooManyLinks) ∧
      leadsAfter ⟨"db.ts".toList⟩ ⟨"other.ts".toList⟩ (tempTaken (.file [1]) (.link ⟨"other.ts".toList⟩) []) =
        (.ok (), .ok (.file [2])) ∧
      leadsAfter ⟨"db.ts".toList⟩ ⟨"db.ts".toList⟩
          (tempTaken (.file [1]) (.link ⟨"db.ts".toList⟩) [some ⟨.noSpace, some 0⟩]) =
        (.error (.write ⟨"db.ts.tmp".toList⟩ .noSpace), .ok (.file [])) ∧
      leadsAfter ⟨"db.ts".toList⟩ ⟨"db.ts".toList⟩ (tempTaken (.file [1]) .nullDevice []) = (.ok (), .ok .nullDevice) ∧
      leadsAfter ⟨"db.ts".toList⟩ ⟨"other.ts".toList⟩
          ((twoFiles []).withName ["other.ts".toList] ["db.ts.tmp".toList] [3]) =
        (.ok (), .ok (.file [2])) ∧
      leadsAfter ⟨"db.ts".toList⟩ ⟨"db.ts".toList⟩
          ((twoFiles [some ⟨.noSpace, some 0⟩]).withName ["db.ts".toList] ["db.ts.tmp".toList] [1]) =
        (.error (.write ⟨"db.ts.tmp".toList⟩ .noSpace), .ok (.file [])) ∧
      (let linked := tempTaken (.link ⟨"db.ts.tmp".toList⟩) (.file [1]) [none, some ⟨.busy, none⟩]
      linked.disk.stat [] ⟨"db.ts".toList⟩ = .ok (.file [1]) ∧
        leadsAfter ⟨"db.ts".toList⟩ ⟨"db.ts".toList⟩ linked =
          (.error (.write ⟨"db.ts".toList⟩ .busy), .error .notFound)) ∧
      (let strayed := tempTaken (.file [1]) (.file [3]) [none, none, none, none, some ⟨.noSpace, none⟩]
      strayed.disk.stat [] ⟨"new/../db.ts".toList⟩ = .error .notFound ∧
        leadsAfter ⟨"new/../db.ts".toList⟩ ⟨"new/../db.ts".toList⟩ strayed =
          (.error (.write ⟨"new/../db.ts.tmp".toList⟩ .noSpace), .ok (.file [1]))) := by
  decide +kernel

end Commit

end Cleave
