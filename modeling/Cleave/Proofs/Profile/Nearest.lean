import Mathlib.Control.Monad.Basic
import Cleave.Profile.Lookup
import Cleave.Proofs.Disk.Effect
import Cleave.Proofs.Path.Ancestors

/-!
# The nearest settings file

The search for the settings of a project looks into a directory and then goes on in the one above (`findProject_eq`).
What it looks at is a list of paths, and it finds the first of them that leads to a regular file (`run_firstFile`). So
it finds the file in the nearest directory, and there the one with the name that is preferred (`findProject_nearest`).
-/

namespace Cleave

/-- Whether a path leads to a regular file. -/
def World.hasFile (w : World) (p : Path) : Bool :=
  match w.disk.stat w.cwd p with
  | .ok n => (n matches .file _)
  | .error _ => false

namespace Settings

open Effect

variable {ε : Type} {w w' : World} {start p : Path}

/-- It is always answered whether a path leads to a regular file, and truly unless the access is struck. -/
theorem run_isFile {r : Except ε Bool} (run : (isFile p : Effect ε Bool).run w = (r, w')) :
    ∃ answer, r = .ok answer ∧ w' = w.next ∧ (answer = true → w.hasFile p = true) ∧
      (w.Spares 0 → answer = w.hasFile p) := by
  obtain ⟨answer, rfl, rfl, known, truly⟩ := run_query run
  have seen : answer = true → w.hasFile p = true := by
    intro yes
    obtain ⟨n, found, test⟩ := known yes
    rw [World.hasFile, found]
    exact test
  refine ⟨answer, rfl, rfl, seen, fun spared => ?_⟩
  cases found : w.disk.stat w.cwd p with
  | ok n =>
    have same := truly spared n found
    cases n <;> simpa [World.hasFile, found] using same
  | error e =>
    have none : w.hasFile p = false := by rw [World.hasFile, found]
    cases answer with
    | false => exact none.symm
    | true => cases none.symm.trans (seen rfl)

/-- The first path that leads to a regular file is found. One whose access is struck is passed over. -/
theorem run_firstFile {ps : List Path} {r : Except ε (Option Path)}
    (run : (firstFile ps : Effect ε (Option Path)).run w = (r, w')) :
    ∃ found, r = .ok found ∧ w'.disk = w.disk ∧ w'.cwd = w.cwd ∧
      (∀ p, found = some p → p ∈ ps ∧ w.hasFile p = true) ∧
      ((∀ n, w.Spares n) → found = ps.find? w.hasFile) := by
  induction ps generalizing w with
  | nil =>
    obtain ⟨rfl, rfl⟩ := run_pure run
    exact ⟨none, rfl, rfl, rfl, by simp, fun _ => rfl⟩
  | cons p ps ih =>
    rcases run_bind run with ⟨e, failed, -⟩ | ⟨answer, m, asked, rest⟩
    · obtain ⟨answer, same, -⟩ := run_isFile failed
      cases same
    · obtain ⟨answer, same, rfl, seen, truly⟩ := run_isFile asked
      cases same
      cases answer with
      | true =>
        obtain ⟨rfl, rfl⟩ := run_pure rest
        refine ⟨some p, rfl, rfl, rfl, fun q same => ?_, fun _ => ?_⟩
        · cases same
          exact ⟨List.mem_cons_self, seen rfl⟩
        · rw [List.find?_cons_of_pos (seen rfl)]
      | false =>
        obtain ⟨found, rfl, disk, cwd, known, first⟩ := ih rest
        have same : w.next.hasFile = w.hasFile := rfl
        refine ⟨found, rfl, disk, cwd, fun q same => ?_, fun spared => ?_⟩
        · obtain ⟨member, holds⟩ := known q same
          exact ⟨List.mem_cons_of_mem p member, holds⟩
        · rw [List.find?_cons_of_neg (by simp [← truly (spared 0)]), ← same]
          exact first fun n => World.spares_next.mpr (spared (n + 1))

theorem firstFile_append (ps qs : List Path) :
    (firstFile (ps ++ qs) : Effect ε (Option Path)) = (do
      match ← firstFile ps with
      | some p => return some p
      | none => firstFile qs) := by
  induction ps with
  | nil => simp [firstFile]
  | cons p ps ih =>
    simp only [List.cons_append, firstFile, ih, bind_assoc]
    refine bind_congr fun seen => ?_
    cases seen with
    | true => rfl
    | false => rfl

/-- The search looks into a directory and then goes on in the one above, if there is one. -/
theorem findProject_eq (absolute : start.isAbsolute = true) :
    (findProject start : Effect ε (Option Path)) = (do
      match ← firstFile (candidates start) with
      | some p => return some p
      | none =>
        match start.parent? with
        | some above => findProject above
        | none => return none) := by
  rw [findProject, Path.ancestors_eq absolute, List.flatMap_cons, firstFile_append]
  cases start.parent? with
  | some above => rfl
  | none => rfl

/-- No settings file is in a directory. -/
def Lacks (w : World) (dir : Path) : Prop :=
  ∀ name ∈ fileNames, w.hasFile (dir.join (.ofString name)) = false

/-- A path leads to the settings file of a directory whose name is preferred to those of all others there. -/
def Prefers (w : World) (dir p : Path) : Prop :=
  ∃ before name after, fileNames = before ++ name :: after ∧ p = dir.join (.ofString name) ∧ w.hasFile p = true ∧
    ∀ other ∈ before, w.hasFile (dir.join (.ofString other)) = false

theorem find?_candidates_eq_none {dir : Path} : (candidates dir).find? w.hasFile = none ↔ Lacks w dir := by
  simp [candidates, Lacks]

theorem find?_candidates_eq_some {dir : Path} : (candidates dir).find? w.hasFile = some p ↔ Prefers w dir p := by
  rw [candidates, List.find?_map, Option.map_eq_some_iff]
  constructor
  · rintro ⟨name, found, rfl⟩
    obtain ⟨holds, before, after, cut, none⟩ := List.find?_eq_some_iff_append.mp found
    exact ⟨before, name, after, cut, rfl, holds, by simpa using none⟩
  · rintro ⟨before, name, after, cut, rfl, holds, none⟩
    exact ⟨name, List.find?_eq_some_iff_append.mpr ⟨holds, before, after, cut, by simpa using none⟩, rfl⟩

theorem mem_ancestors_iff (absolute : start.isAbsolute = true) {dir : Path} :
    dir ∈ start.ancestors ↔ ∃ n, start.above? n = some dir := by
  simp only [Path.above?_eq absolute, List.mem_iff_getElem?]

theorem find?_eq_none_iff (absolute : start.isAbsolute = true) :
    (start.ancestors.flatMap candidates).find? w.hasFile = none ↔
      ∀ n dir, start.above? n = some dir → Lacks w dir := by
  rw [List.find?_flatMap, List.findSome?_eq_none_iff]
  constructor
  · intro none n dir up
    exact find?_candidates_eq_none.mp (none dir ((mem_ancestors_iff absolute).mpr ⟨n, up⟩))
  · intro lacks dir member
    obtain ⟨n, up⟩ := (mem_ancestors_iff absolute).mp member
    exact find?_candidates_eq_none.mpr (lacks n dir up)

theorem find?_eq_some_iff (absolute : start.isAbsolute = true) :
    (start.ancestors.flatMap candidates).find? w.hasFile = some p ↔
      ∃ n dir, start.above? n = some dir ∧ Prefers w dir p ∧
        ∀ m < n, ∀ lower, start.above? m = some lower → Lacks w lower := by
  rw [List.find?_flatMap, List.findSome?_eq_some_iff]
  simp only [Path.above?_eq absolute]
  constructor
  · rintro ⟨below, dir, above, cut, found, none⟩
    refine ⟨below.length, dir, by simp [cut], find?_candidates_eq_some.mp found, fun m nearer lower up => ?_⟩
    rw [cut, List.getElem?_append_left nearer] at up
    exact find?_candidates_eq_none.mp (none lower (List.mem_of_getElem? up))
  · rintro ⟨n, dir, up, prefers, lacks⟩
    obtain ⟨inside, here⟩ := List.getElem?_eq_some_iff.mp up
    refine ⟨start.ancestors.take n, dir, start.ancestors.drop (n + 1), ?_, find?_candidates_eq_some.mpr prefers,
      fun lower member => ?_⟩
    · rw [← here, List.getElem_cons_drop, List.take_append_drop]
    · obtain ⟨m, up⟩ := List.mem_iff_getElem?.mp member
      rw [List.getElem?_take] at up
      split at up
      · rename_i nearer
        exact find?_candidates_eq_none.mpr (lacks m nearer lower up)
      · cases up

/-- The search for the settings of a project finds the nearest settings file and always ends. From an absolute path it
looks into the directory and goes on in the parent, and going from parent to parent ends. In any world it answers,
leaves the disk as it is, and finds nothing but a regular file. If no access is struck, it finds nothing exactly if
there is no settings file in the directory or in one above it; otherwise it finds the preferred file of the nearest
directory that has one. Directories that bear the name of a settings file are passed over. -/
theorem findProject_nearest (start : Path) (absolute : start.isAbsolute = true) (w : World) :
    fileNames = [".partition.toml", ".partition.yaml", ".partition.yml"] ∧
      (findProject start : Effect ε (Option Path)) = (do
        match ← firstFile (candidates start) with
        | some p => return some p
        | none =>
          match start.parent? with
          | some above => findProject above
          | none => return none) ∧
      (∃ n, start.above? n = none) ∧
      ∃ found w', (findProject start : Effect ε (Option Path)).run w = (.ok found, w') ∧
        w'.disk = w.disk ∧ w'.cwd = w.cwd ∧ (∀ p, found = some p → w.hasFile p = true) ∧
        ((∀ n, w.Spares n) →
          (found = none ↔ ∀ n dir, start.above? n = some dir → Lacks w dir) ∧
          ∀ p, found = some p ↔ ∃ n dir, start.above? n = some dir ∧ Prefers w dir p ∧
            ∀ m < n, ∀ lower, start.above? m = some lower → Lacks w lower) := by
  have ends : start.above? start.ancestors.length = none := by simp [Path.above?_eq absolute]
  refine ⟨rfl, findProject_eq absolute, ⟨_, ends⟩, ?_⟩
  cases run : (findProject start : Effect ε (Option Path)).run w with
  | mk r w' =>
    obtain ⟨found, rfl, disk, cwd, known, first⟩ := run_firstFile run
    refine ⟨found, w', rfl, disk, cwd, fun p same => (known p same).2, fun spared => ?_⟩
    rw [first spared]
    exact ⟨find?_eq_none_iff absolute, fun p => find?_eq_some_iff absolute⟩

/-- A disk with a directory that bears the preferred name of a settings file, two settings files beside it, and one
further up. -/
def nestedSettings : World where
  disk := { nodes := [(["a".toList], .dir), (["a".toList, "b".toList], .dir),
    (["a".toList, ".partition.toml".toList], .dir), (["a".toList, ".partition.yaml".toList], .file [1]),
    (["a".toList, ".partition.yml".toList], .file [2]), ([".partition.toml".toList], .file [3])] }

theorem findProject_nearest_sample :
    Path.isAbsolute ⟨"/a/./b/".toList⟩ = true ∧ (∀ n, nestedSettings.Spares n) ∧
      ((findProject ⟨"/a/./b/".toList⟩ : Effect DiskError (Option Path)).run nestedSettings).1 =
        .ok (some ⟨"/a/.partition.yaml".toList⟩) ∧
      ∃ n dir, Path.above? n ⟨"/a/./b/".toList⟩ = some dir ∧
        Prefers nestedSettings dir ⟨"/a/.partition.yaml".toList⟩ ∧
        ∀ m < n, ∀ lower, Path.above? m ⟨"/a/./b/".toList⟩ = some lower → Lacks nestedSettings lower := by
  have answer : ((findProject ⟨"/a/./b/".toList⟩ : Effect DiskError (Option Path)).run nestedSettings).1 =
      .ok (some ⟨"/a/.partition.yaml".toList⟩) := by
    decide +kernel
  have spared (n : Nat) : nestedSettings.Spares n := rfl
  obtain ⟨-, -, -, found, w', run, -, -, -, truly⟩ :=
    @findProject_nearest DiskError ⟨"/a/./b/".toList⟩ (by decide) nestedSettings
  rw [run] at answer
  cases answer
  exact ⟨by decide, spared, by rw [run], ((truly spared).2 _).mp rfl⟩

end Settings

end Cleave
