import Cleave.Disk.Walk

/-!
# Locations of paths

The location of a path is found part by part, without looking at a disk. Characters that are added to a path go to
its last part: the path with an ending lies beside the path itself, under a name that ends with these characters.
-/

namespace Cleave

namespace Text

theorem pieces_ne_nil (sep : Char) (t : Text) : pieces sep t ≠ [] := by
  cases t with
  | nil => simp [pieces]
  | cons c r =>
    simp only [pieces]
    split
    · simp
    · split <;> simp

theorem pieces_of_free {sep : Char} {t : Text} (free : sep ∉ t) : pieces sep t = [t] := by
  induction t with
  | nil => rfl
  | cons c r ih =>
    have other : c ≠ sep := fun same => free (by simp [same])
    have rest : sep ∉ r := fun member => free (List.mem_cons_of_mem c member)
    simp [pieces, other, ih rest]

/-- Characters that are no separators go to the last piece. -/
theorem pieces_append {sep : Char} {t u : Text} (free : sep ∉ u) {init : List Text} {last : Text}
    (cut : pieces sep t = init ++ [last]) : pieces sep (t ++ u) = init ++ [last ++ u] := by
  induction t generalizing init last with
  | nil =>
    obtain ⟨rfl, same⟩ := List.append_inj' (show [] ++ [_] = _ from cut) rfl
    rw [← List.singleton_inj.mp same]
    exact pieces_of_free free
  | cons c r ih =>
    obtain ⟨front, final, rest⟩ := (List.eq_nil_or_concat _).resolve_left (pieces_ne_nil sep r)
    rw [List.concat_eq_append] at rest
    simp only [List.cons_append, pieces, ih rest, rest] at cut ⊢
    split at cut
    · rename_i same
      obtain ⟨rfl, last⟩ := List.append_inj' (show ([] :: front) ++ [_] = _ from cut) rfl
      rw [if_pos same, ← List.singleton_inj.mp last]
      rfl
    · rename_i other
      rw [if_neg other]
      cases front with
      | nil =>
        obtain ⟨rfl, last⟩ := List.append_inj' (show [] ++ [_] = _ from cut) rfl
        rw [← List.singleton_inj.mp last]
        rfl
      | cons p ps =>
        obtain ⟨rfl, last⟩ := List.append_inj' (show ((c :: p) :: ps) ++ [_] = _ from cut) rfl
        rw [← List.singleton_inj.mp last]
        rfl

end Text

namespace Path

variable {cwd : Location} {p q : Path} {s s' : String}

/-- Where a part leads from a location. -/
def followPart (l : Location) (part : Text) : Location :=
  if Disk.isStay part then l else if part = ['.', '.'] then l.dropLast else l ++ [part]

theorem followPart_of_stay {l : Location} {part : Text} (stay : Disk.isStay part = true) : followPart l part = l :=
  if_pos stay

theorem followPart_of_name {l : Location} {part : Text} (name : Disk.isStay part = false)
    (down : part ≠ ['.', '.']) : followPart l part = l ++ [part] := by
  rw [followPart, if_neg (by simp [name]), if_neg down]

/-- The parts of a path, those included that lead nowhere. -/
def parts (p : Path) : List Text :=
  Text.pieces '/' p.text

theorem parts_ne_nil (p : Path) : p.parts ≠ [] :=
  Text.pieces_ne_nil '/' p.text

/-- The last part of a path. -/
def lastPart (p : Path) : Text :=
  p.parts.getLast p.parts_ne_nil

/-- Where the parts before the last one lead. -/
def baseFrom (cwd : Location) (p : Path) : Location :=
  p.parts.dropLast.foldl followPart (Disk.startOf cwd p)

/-- Components lead where the parts lead from which they come. -/
theorem foldl_follow_locateFrom (start : Nat) (parts : List Text) (l : Location) :
    ((locateFrom start parts).map Located.component).foldl follow l = parts.foldl followPart l := by
  induction parts generalizing start l with
  | nil => rfl
  | cons part rest ih =>
    have first : ((locate? start part).toList.map Located.component).foldl follow l = followPart l part := by
      by_cases empty : part = []
      · simp [locate?, followPart, Disk.isStay, empty]
      · by_cases dot : part = ['.']
        · by_cases front : start = 0
          · simp [locate?, followPart, Disk.isStay, dot, front, follow]
          · simp [locate?, followPart, Disk.isStay, dot, front]
        · by_cases up : part = ['.', '.']
          · simp [locate?, followPart, Disk.isStay, up, follow]
          · simp [locate?, followPart, Disk.isStay, empty, dot, up, follow]
    rw [locateFrom, List.map_append, List.foldl_append, first, ih, List.foldl_cons]

theorem locationFrom_eq (cwd : Location) (p : Path) :
    p.locationFrom cwd = p.parts.foldl followPart (Disk.startOf cwd p) := by
  rw [locationFrom, components, located, List.map_append, List.foldl_append, foldl_follow_locateFrom,
    Disk.startOf]
  cases p.isAbsolute <;> rfl

theorem locationFrom_eq_followPart (cwd : Location) (p : Path) :
    p.locationFrom cwd = followPart (p.baseFrom cwd) p.lastPart := by
  have cut : p.parts = p.parts.dropLast ++ [p.lastPart] := (List.dropLast_concat_getLast p.parts_ne_nil).symm
  rw [locationFrom_eq, cut, List.foldl_append, ← baseFrom]
  rfl

/-- Characters that always make the last part of a path a name. -/
structure Ending (s : String) : Prop where
  free : '/' ∉ s.toList
  /-- Even after no character at all there is more than `..`. -/
  long : 2 < s.toList.length

theorem startOf_append (ending : Ending s) (cwd : Location) (p : Path) :
    Disk.startOf cwd (p.append s) = Disk.startOf cwd p := by
  have same : (p.append s).isAbsolute = p.isAbsolute := by
    cases text : p.text with
    | cons c r => simp [append, isAbsolute, text]
    | nil =>
      have other : s.toList.head? ≠ some '/' := fun slash => ending.free (List.mem_of_head? slash)
      simp [append, isAbsolute, text, other]
  simp [Disk.startOf, same]

/-- A path with an ending lies beside the path. -/
theorem locationFrom_append (ending : Ending s) (cwd : Location) (p : Path) :
    (p.append s).locationFrom cwd = p.baseFrom cwd ++ [p.lastPart ++ s.toList] := by
  have long := ending.long
  have name : Disk.isStay (p.lastPart ++ s.toList) = false := by
    rw [Disk.isStay, Bool.or_eq_false_iff, decide_eq_false_iff_not, decide_eq_false_iff_not]
    constructor <;>
    · intro short
      have lengths := congrArg List.length short
      simp only [List.length_append, List.length_nil, List.length_cons] at lengths
      omega
  have down : p.lastPart ++ s.toList ≠ ['.', '.'] := by
    intro short
    have lengths := congrArg List.length short
    simp only [List.length_append, List.length_nil, List.length_cons] at lengths
    omega
  have cut : (p.append s).parts = p.parts.dropLast ++ [p.lastPart ++ s.toList] :=
    Text.pieces_append ending.free (List.dropLast_concat_getLast p.parts_ne_nil).symm
  rw [locationFrom_eq, cut, startOf_append ending, List.foldl_append, ← baseFrom]
  exact followPart_of_name name down

theorem resolve?_append (ending : Ending s) (cwd : Location) (p : Path) :
    (p.append s).resolve? cwd = some ((p.append s).locationFrom cwd) := by
  refine if_neg fun empty => ?_
  have none : s.toList = [] := (List.append_eq_nil_iff.mp empty).2
  have long := ending.long
  simp [none] at long

/-- No ending leads back to the path itself. -/
theorem locationFrom_append_ne_self (ending : Ending s) (cwd : Location) (p : Path) :
    (p.append s).locationFrom cwd ≠ p.locationFrom cwd := by
  have long := ending.long
  intro same
  rw [locationFrom_append ending, locationFrom_eq_followPart, followPart] at same
  split at same
  · simp at same
  · split at same
    · have lengths := congrArg List.length same
      simp only [List.length_append, List.length_singleton, List.length_dropLast] at lengths
      omega
    · have last := congrArg List.length (List.singleton_inj.mp (List.append_cancel_left same))
      simp only [List.length_append] at last
      omega

/-- Paths that meet once the same ending is added lead to the same location. -/
theorem locationFrom_of_append (ending : Ending s)
    (same : (p.append s).locationFrom cwd = (q.append s).locationFrom cwd) :
    p.locationFrom cwd = q.locationFrom cwd := by
  rw [locationFrom_append ending, locationFrom_append ending] at same
  obtain ⟨base, last⟩ := List.append_inj' same rfl
  rw [locationFrom_eq_followPart, locationFrom_eq_followPart, base,
    List.append_cancel_right (List.singleton_inj.mp last)]

/-- A path with an ending leads to no place whose name ends in another way. -/
theorem locationFrom_append_ne_concat (ending : Ending s) {t : Text} (other : ¬ s.toList <:+ t) (cwd : Location)
    (p : Path) (dir : Location) : (p.append s).locationFrom cwd ≠ dir ++ [t] := by
  intro same
  rw [locationFrom_append ending] at same
  exact other ⟨p.lastPart, List.singleton_inj.mp (List.append_inj' same rfl).2⟩

/-- Paths with endings that do not end alike never meet. -/
theorem locationFrom_append_ne (ending : Ending s) (ending' : Ending s') (left : ¬ s.toList <:+ s'.toList)
    (right : ¬ s'.toList <:+ s.toList) (cwd : Location) (p q : Path) :
    (p.append s).locationFrom cwd ≠ (q.append s').locationFrom cwd := by
  intro same
  rw [locationFrom_append ending, locationFrom_append ending'] at same
  have last := List.singleton_inj.mp (List.append_inj' same rfl).2
  have one : s.toList <:+ q.lastPart ++ s'.toList := ⟨p.lastPart, last⟩
  have two : s'.toList <:+ q.lastPart ++ s'.toList := List.suffix_append ..
  rcases Nat.le_total s.toList.length s'.toList.length with short | short
  · exact left (List.suffix_of_suffix_length_le one two short)
  · exact right (List.suffix_of_suffix_length_le two one short)

end Path

end Cleave
