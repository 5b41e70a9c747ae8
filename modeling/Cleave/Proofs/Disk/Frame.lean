import Cleave.Proofs.Disk.LinkFree

/-!
# What stays on a disk

A frame lists the places that an access may touch. Everywhere else the disk stays as it is, except that directories
may appear in empty places; no directory goes, no link comes, and the null device is not moved. Frames are put
together one after the other, so the frame of a run follows from those of its accesses.
-/

namespace Cleave.Disk

variable {d d' d'' : Disk} {cwd l : Location} {p q : Path} {touched touched' : List Location}

theorem lookup_filter_ne (nodes : List (Location × Node)) (l k : Location) :
    (nodes.filter (·.1 ≠ l)).lookup k = if k = l then none else nodes.lookup k := by
  induction nodes with
  | nil => simp
  | cons e nodes ih =>
    obtain ⟨m, n⟩ := e
    by_cases here : m = l
    · rw [List.filter_cons_of_neg (by simpa using here), ih]
      by_cases asked : k = l
      · rw [if_pos asked, if_pos asked]
      · rw [List.lookup_cons, beq_false_of_ne (here ▸ asked)]
    · rw [List.filter_cons_of_pos (by simpa using here), List.lookup_cons, List.lookup_cons, ih]
      by_cases asked : k = m
      · simp [asked, here]
      · simp [beq_false_of_ne asked]

theorem get?_set (below : l ≠ []) (d : Disk) (n : Node) (k : Location) :
    (d.set l n).get? k = if k = l then some n else d.get? k := by
  by_cases root : k = []
  · simp [get?, root, below.symm]
  · rw [get?, get?, if_neg root, if_neg root, set, List.lookup_cons]
    by_cases here : k = l
    · simp [here]
    · rw [beq_false_of_ne here, lookup_filter_ne, if_neg here, if_neg here]

theorem get?_erase (below : l ≠ []) (d : Disk) (k : Location) :
    (d.erase l).get? k = if k = l then none else d.get? k := by
  by_cases root : k = []
  · simp [get?, root, below.symm]
  · rw [get?, get?, if_neg root, if_neg root, erase, lookup_filter_ne]

@[simp]
theorem withoutName_nil (l : Location) : withoutName [] l = [] := rfl

@[simp]
theorem shared_set (d : Disk) (l : Location) (n : Node) : (d.set l n).shared = withoutName d.shared l := rfl

@[simp]
theorem shared_erase (d : Disk) (l : Location) : (d.erase l).shared = withoutName d.shared l := rfl

theorem ne_root_of_get? (held : d.get? l ≠ some .dir) : l ≠ [] := by
  rintro rfl
  exact held rfl

/-- The place of the null device. -/
def nullPlace : Location :=
  ["dev".toList, "null".toList]

/-- The null device is nowhere but in its place. -/
def DeviceInPlace (d : Disk) : Prop :=
  ∀ l, d.get? l = some .nullDevice → l = nullPlace

theorem deviceInPlace_of_nodes (inPlace : ∀ e ∈ d.nodes, e.2 = .nullDevice → e.1 = nullPlace) : d.DeviceInPlace :=
  fun _ found => inPlace _ (mem_of_get? found (by simp)) rfl

/-- Only touched places change, but for directories that are made where nothing was. -/
structure Frame (touched : List Location) (d d' : Disk) : Prop where
  outside : ∀ l, l ∉ touched → d'.get? l = d.get? l ∨ d.get? l = none ∧ d'.get? l = some .dir
  dirs : d.KeepsDirs d'
  links : d.LinkFree → d'.LinkFree
  device : d.DeviceInPlace → d'.DeviceInPlace

namespace Frame

theorem refl (touched : List Location) (d : Disk) : Frame touched d d :=
  ⟨fun _ _ => .inl rfl, fun _ found => found, id, id⟩

theorem trans (first : Frame touched d d') (second : Frame touched d' d'') : Frame touched d d'' where
  outside l out := by
    rcases second.outside l out with same | ⟨missing, made⟩
    · rw [same]
      exact first.outside l out
    · rcases first.outside l out with same | ⟨-, made'⟩
      · exact .inr ⟨same ▸ missing, made⟩
      · rw [made'] at missing
        cases missing
  dirs l found := second.dirs l (first.dirs l found)
  links links := second.links (first.links links)
  device device := second.device (first.device device)

theorem mono (frame : Frame touched d d') (within : touched ⊆ touched') : Frame touched' d d' :=
  ⟨fun l out => frame.outside l fun member => out (within member), frame.dirs, frame.links, frame.device⟩

/-- What an untouched place holds is still there. -/
theorem get? (frame : Frame touched d d') (out : l ∉ touched) {n : Node} (found : d.get? l = some n) :
    d'.get? l = some n := by
  rcases frame.outside l out with same | ⟨missing, -⟩
  · rw [same, found]
  · rw [missing] at found
    cases found

theorem fileAt? (frame : Frame touched d d') (out : l ∉ touched) : d'.fileAt? l = d.fileAt? l := by
  rcases frame.outside l out with same | ⟨missing, made⟩
  · simp [Disk.fileAt?, same]
  · simp [Disk.fileAt?, missing, made]

/-- What a path to an untouched place leads to is still there. -/
theorem stat (frame : Frame touched d d') (links : d.LinkFree) (out : p.locationFrom cwd ∉ touched) {n : Node}
    (found : d.stat cwd p = .ok n) : d'.stat cwd p = .ok n := by
  have held := ((stat_eq_ok_iff links).mp found).2.2
  exact stat_keepsDirs links (frame.links links) frame.dirs found ((frame.get? out held).trans held.symm)

theorem of_get? (same : ∀ l, l ∉ touched → d'.get? l = d.get? l) (dirs : ∀ l ∈ touched, d.get? l ≠ some .dir)
    (links : ∀ l ∈ touched, ∀ target, d'.get? l ≠ some (.link target)) (single : d.shared = [] → d'.shared = [])
    (device : d.DeviceInPlace → ∀ l ∈ touched, d'.get? l ≠ some .nullDevice) : Frame touched d d' where
  outside l out := .inl (same l out)
  dirs l found := by
    by_cases member : l ∈ touched
    · exact absurd found (dirs l member)
    · rw [same l member, found]
  links free := by
    refine ⟨fun l target => ?_, single free.single⟩
    by_cases member : l ∈ touched
    · exact links l member target
    · rw [same l member]
      exact free.plain l target
  device inPlace l found := by
    by_cases member : l ∈ touched
    · exact absurd found (device inPlace l member)
    · rw [same l member] at found
      exact inPlace l found

theorem write (links : d.LinkFree) {content : Bytes} (done : d.write cwd p content = .ok d') :
    Frame [p.locationFrom cwd] d d' := by
  obtain ⟨-, ⟨-, rfl⟩ | ⟨free, rfl⟩⟩ := write_eq_ok links done
  · exact refl _ _
  · have below := ne_root_of_get? free
    refine of_get? ?_ ?_ ?_ ?_ ?_ <;> simp +contextual [get?_set below, free]

theorem makeDir (done : d.makeDir cwd p = .ok d') : Frame [] d d' := by
  obtain ⟨l, missing, rfl⟩ := makeDir_at_empty done
  have below := ne_root_of_get? (d := d) (l := l) (by simp [missing])
  constructor
  · intro l _
    rw [get?_set below]
    split
    · rename_i here
      exact .inr ⟨here ▸ missing, rfl⟩
    · exact .inl rfl
  · intro l found
    rw [get?_set below, found, ite_self]
  · intro free
    refine ⟨fun l target => ?_, by simp [free.single]⟩
    rw [get?_set below]
    split
    · simp
    · exact free.plain l target
  · intro inPlace l found
    rw [get?_set below] at found
    split at found
    · cases found
    · exact inPlace l found

theorem remove (links : d.LinkFree) (done : d.remove cwd p = .ok d') : Frame [p.locationFrom cwd] d d' := by
  obtain ⟨free, rfl⟩ := remove_eq_ok links done
  have below := ne_root_of_get? free
  refine of_get? ?_ ?_ ?_ ?_ ?_ <;> simp +contextual [get?_erase below, free]

/-- A path to the null device is not renamed here, so it stays in its place. -/
theorem rename (links : d.LinkFree) (apart : p.locationFrom cwd ≠ nullPlace) (done : d.rename cwd p q = .ok d') :
    Frame [p.locationFrom cwd, q.locationFrom cwd] d d' := by
  obtain ⟨-, n, found, other, ⟨-, rfl⟩ | ⟨differ, free, rfl⟩⟩ := rename_eq_ok links done
  · exact refl _ _
  · have source : d.get? (p.locationFrom cwd) ≠ some .dir := by simpa [found] using other
    have get? (k : Location) := get?_set (ne_root_of_get? free) (d.erase (p.locationFrom cwd)) n k
    simp only [get?_erase (ne_root_of_get? source)] at get?
    refine of_get? ?_ ?_ ?_ ?_ ?_
    · simp +contextual [get?]
    · simp [source, free]
    · have plain : ∀ target, n ≠ .link target := fun target same => links.plain _ target (same ▸ found)
      simp [get?, differ, plain]
    · simp +contextual
    · intro inPlace
      have plain : n ≠ .nullDevice := fun same => apart (inPlace _ (same ▸ found))
      simp [get?, differ, plain]

end Frame

end Cleave.Disk
