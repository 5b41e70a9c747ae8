import Cleave.Proofs.Disk.Frame

/-!
# Changes of one place

A path is direct if it names a directory or a regular file with one name, if anything. Writing to such a path and
removing it change no more than the place that it names, and this place holds a regular file with one name, if anything,
before and after (`Alters`). So every path still leads where it led, and names the same place. A file that is moved over
another is told by the two places (`Puts`).
-/

namespace Cleave.Disk

variable {d d' d'' : Disk} {cwd l : Location} {p q : Path} {place : Option Location} {content : Bytes}

/-- A place holds a regular file with one name, if anything. -/
structure Plain (d : Disk) (l : Location) : Prop where
  file : ∀ n, d.get? l = some n → ∃ content, n = .file content
  single : d.shared.lookup l = none

/-- A path names a directory or a regular file with one name, if anything. -/
def Direct (d : Disk) (cwd : Location) (p : Path) : Prop :=
  ∀ l, d.named? cwd p = some l →
    (∀ n, d.get? l = some n → n = .dir ∨ ∃ content, n = .file content) ∧ d.shared.lookup l = none

/-- At most one place changes, and it holds a regular file with one name, if anything, before and after. -/
structure Alters (place : Option Location) (d d' : Disk) : Prop where
  places : ∀ l, d'.get? l = d.get? l ∨ place = some l ∧ d.Plain l ∧ d'.Plain l
  shared : d'.shared = d.shared

theorem Plain.congr (plain : d.Plain l) (same : d'.get? l = d.get? l) (shared : d'.shared = d.shared) :
    d'.Plain l where
  file := same ▸ plain.file
  single := shared ▸ plain.single

theorem Plain.ne_dir (plain : d.Plain l) : d.get? l ≠ some .dir := by
  intro held
  obtain ⟨content, file⟩ := plain.file _ held
  cases file

theorem Plain.ne_link (plain : d.Plain l) (target : Path) : d.get? l ≠ some (.link target) := by
  intro held
  obtain ⟨content, file⟩ := plain.file _ held
  cases file

theorem withoutName_of_single {shared : List (Location × Nat)} (single : shared.lookup l = none) :
    withoutName shared l = shared := by
  rw [withoutName, single]

theorem Direct.plain (direct : d.Direct cwd p) (named : d.named? cwd p = some l) (other : d.get? l ≠ some .dir) :
    d.Plain l := by
  obtain ⟨ends, single⟩ := direct l named
  refine ⟨fun n held => ?_, single⟩
  rcases ends n held with rfl | file
  · exact absurd held other
  · exact file

theorem Direct.ne_link (direct : d.Direct cwd p) (named : d.named? cwd p = some l) (target : Path) :
    d.get? l ≠ some (.link target) := by
  intro held
  exact (direct.plain named (by simp [held])).ne_link target held

namespace Alters

theorem refl (place : Option Location) (d : Disk) : Alters place d d :=
  ⟨fun _ => .inl rfl, rfl⟩

theorem symm (alters : Alters place d d') : Alters place d' d := by
  refine ⟨fun l => ?_, alters.shared.symm⟩
  rcases alters.places l with same | ⟨here, before, after⟩
  · exact .inl same.symm
  · exact .inr ⟨here, after, before⟩

theorem trans (first : Alters place d d') (second : Alters place d' d'') : Alters place d d'' := by
  refine ⟨fun l => ?_, second.shared.trans first.shared⟩
  rcases first.places l with same | ⟨here, before, between⟩
  · rcases second.places l with same' | ⟨here, between, after⟩
    · exact .inl (same'.trans same)
    · exact .inr ⟨here, between.congr same.symm first.shared.symm, after⟩
  · rcases second.places l with same' | ⟨-, -, after⟩
    · exact .inr ⟨here, before, between.congr same' second.shared⟩
    · exact .inr ⟨here, before, after⟩

theorem fileAt?_of_ne (alters : Alters place d d') (away : place ≠ some l) : d'.fileAt? l = d.fileAt? l := by
  rcases alters.places l with same | ⟨here, -⟩
  · rw [fileAt?, fileAt?, same]
  · exact absurd here away

theorem keepsWays (alters : Alters place d d') : d.KeepsWays d' where
  dirs l found := by
    rcases alters.places l with same | ⟨-, before, -⟩
    · rw [same, found]
    · exact absurd found before.ne_dir
  links l target := by
    rcases alters.places l with same | ⟨-, before, after⟩
    · rw [same]
    · simp [before.ne_link, after.ne_link]

/-- Every path names the same place as before. -/
theorem named?_eq (alters : Alters place d d') (cwd : Location) (q : Path) : d'.named? cwd q = d.named? cwd q := by
  ext l
  exact ⟨alters.symm.keepsWays.named?, alters.keepsWays.named?⟩

theorem direct (alters : Alters (d.named? cwd p) d d') (direct : d.Direct cwd p) : d'.Direct cwd p := by
  intro l named
  rw [alters.named?_eq] at named
  obtain ⟨ends, single⟩ := direct l named
  rw [alters.shared]
  refine ⟨fun n held => ?_, single⟩
  rcases alters.places l with same | ⟨-, -, after⟩
  · exact ends n (same ▸ held)
  · exact .inr (after.file n held)

theorem set (below : l ≠ []) (plain : d.Plain l) (content : Bytes) : Alters (some l) d (d.set l (.file content)) := by
  have shared : (d.set l (.file content)).shared = d.shared := withoutName_of_single plain.single
  refine ⟨fun k => ?_, shared⟩
  by_cases here : k = l
  · subst here
    refine .inr ⟨rfl, plain, fun n held => ?_, shared ▸ plain.single⟩
    rw [get?_set below, if_pos rfl] at held
    exact ⟨content, (Option.some.inj held).symm⟩
  · rw [get?_set below, if_neg here]
    exact .inl rfl

theorem erase (below : l ≠ []) (plain : d.Plain l) : Alters (some l) d (d.erase l) := by
  have shared : (d.erase l).shared = d.shared := withoutName_of_single plain.single
  refine ⟨fun k => ?_, shared⟩
  by_cases here : k = l
  · subst here
    refine .inr ⟨rfl, plain, fun n held => ?_, shared ▸ plain.single⟩
    rw [get?_erase below, if_pos rfl] at held
    cases held
  · rw [get?_erase below, if_neg here]
    exact .inl rfl

end Alters

/-- What is written to a path that names no link, no device and no file with several names is put in the place that it
names. -/
theorem write_direct (direct : d.Direct cwd p) (done : d.write cwd p content = .ok d') :
    ∃ l, d.named? cwd p = some l ∧ l ≠ [] ∧ d.Plain l ∧ d' = d.set l (.file content) := by
  obtain ⟨l, named, written⟩ := write_at_entry done
  rcases written (direct.ne_link named) (direct l named).2 with ⟨device, -⟩ | ⟨other, rfl⟩
  · obtain ⟨content, file⟩ := (direct.plain named (by simp [device])).file _ device
    cases file
  · exact ⟨l, named, ne_root_of_get? other, direct.plain named other, rfl⟩

theorem remove_direct (direct : d.Direct cwd p) (done : d.remove cwd p = .ok d') :
    ∃ l, d.named? cwd p = some l ∧ l ≠ [] ∧ d.Plain l ∧ d' = d.erase l := by
  obtain ⟨l, named, other, rfl⟩ := remove_at_entry done
  exact ⟨l, named, ne_root_of_get? other, direct.plain named other, rfl⟩

/-- A file has come to one place, another place has become empty, and nothing else has changed. -/
structure Puts (content : Bytes) (source target : Location) (d d' : Disk) : Prop where
  apart : source ≠ target
  plain : d.Plain source
  closed : d.get? target ≠ some .dir
  after : ∀ l, d'.get? l = if l = target then some (.file content) else if l = source then none else d.get? l

namespace Puts

variable {source target : Location}

theorem held (puts : Puts content source target d d') : d'.fileAt? target = some content := by
  simp [fileAt?, puts.after]

theorem gone (puts : Puts content source target d d') : d'.get? source = none := by
  rw [puts.after, if_neg puts.apart, if_pos rfl]

theorem get?_of_ne (puts : Puts content source target d d') (here : l ≠ target) (there : l ≠ source) :
    d'.get? l = d.get? l := by
  rw [puts.after, if_neg here, if_neg there]

theorem dirs (puts : Puts content source target d d') : d.KeepsDirs d' := by
  intro l dir
  have here : l ≠ target := by
    rintro rfl
    exact puts.closed dir
  have there : l ≠ source := by
    rintro rfl
    exact puts.plain.ne_dir dir
  rw [puts.get?_of_ne here there, dir]

/-- A file that takes the place of no link is on no way. -/
theorem keepsWays (puts : Puts content source target d d') (unlinked : ∀ p, d.get? target ≠ some (.link p)) :
    d.KeepsWays d' where
  dirs := puts.dirs
  links l p := by
    by_cases here : l = target
    · subst here
      simp [puts.after, unlinked]
    · by_cases there : l = source
      · subst there
        simp [puts.gone, puts.plain.ne_link]
      · rw [puts.get?_of_ne here there]

end Puts

/-- Directories that appear in empty places are on no way that there was. -/
theorem Frame.keepsWays (frame : Frame [] d d') : d.KeepsWays d' where
  dirs := frame.dirs
  links l target := by
    rcases frame.outside l (List.not_mem_nil) with same | ⟨missing, made⟩
    · rw [same]
    · simp [missing, made]

end Cleave.Disk
