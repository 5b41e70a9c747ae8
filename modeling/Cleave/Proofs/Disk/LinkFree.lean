import Cleave.Proofs.Disk.Way

/-!
# Disks without links

On a disk without links a path leads nowhere but to its location, and no file is reached by two names. `Leads` says which
parts can be followed; it only asks for directories on the way, so what leads somewhere still does when directories are
added. With it, each access that changes a disk is told by what it does to the location of its path.
-/

namespace Cleave.Disk

variable {d d' : Disk} {cwd : Location} {p q : Path}

/-- No place holds a link, and every file has one name. -/
structure LinkFree (d : Disk) : Prop where
  plain : ∀ l target, d.get? l ≠ some (.link target)
  single : d.shared = []

theorem LinkFree.lookup_shared (links : d.LinkFree) (l : Location) : d.shared.lookup l = none := by
  rw [links.single, List.lookup_nil]

theorem mem_of_get? {l : Location} {n : Node} (found : d.get? l = some n) (other : n ≠ .dir) : (l, n) ∈ d.nodes := by
  rw [get?] at found
  split at found
  · exact absurd (Option.some.inj found).symm other
  · obtain ⟨before, after, cut, -⟩ := List.lookup_eq_some_iff.mp found
    rw [cut]
    exact List.mem_append_right _ List.mem_cons_self

theorem get?_ne_link_of_nodes (plain : ∀ e ∈ d.nodes, (e.2 matches .link _) = false) (l : Location) (target : Path) :
    d.get? l ≠ some (.link target) := by
  intro found
  cases plain _ (mem_of_get? found (by simp))

theorem linkFree_of_nodes (plain : ∀ e ∈ d.nodes, (e.2 matches .link _) = false) (single : d.shared = []) :
    d.LinkFree :=
  ⟨get?_ne_link_of_nodes plain, single⟩

/-! ## Following parts -/

/-- Parts lead from one location to another through directories that are there. -/
inductive Leads (d : Disk) : Location → List Text → Location → Prop
  | done (dir : Location) : Leads d dir [] dir
  | stay {dir l : Location} {part : Text} {rest : List Text} (stays : isStay part = true)
      (onward : Leads d dir rest l) : Leads d dir (part :: rest) l
  | up {dir l : Location} {rest : List Text} (onward : Leads d dir.dropLast rest l) :
      Leads d dir (['.', '.'] :: rest) l
  | into {dir l : Location} {part : Text} {rest : List Text} (name : isStay part = false)
      (down : part ≠ ['.', '.']) (short : Text.byteLength part ≤ maxName)
      (found : d.get? (dir ++ [part]) = some .dir) (onward : Leads d (dir ++ [part]) rest l) :
      Leads d dir (part :: rest) l
  | last {dir : Location} {part : Text} (name : isStay part = false) (down : part ≠ ['.', '.'])
      (short : Text.byteLength part ≤ maxName) (found : d.get? (dir ++ [part]) ≠ some .dir) :
      Leads d dir [part] (dir ++ [part])

theorem Leads.eq_foldl {dir l : Location} {parts : List Text} (leads : d.Leads dir parts l) :
    parts.foldl Path.followPart dir = l := by
  induction leads with
  | done dir => rfl
  | stay stays _ ih => rw [List.foldl_cons, Path.followPart_of_stay stays, ih]
  | up _ ih => exact ih
  | into name down _ _ _ ih => rw [List.foldl_cons, Path.followPart_of_name name down, ih]
  | last name down _ _ => exact Path.followPart_of_name name down

theorem Leads.keepsDirs {dir l : Location} {parts : List Text} (leads : d.Leads dir parts l)
    (keeps : d.KeepsDirs d') : d'.Leads dir parts l := by
  induction leads with
  | done dir => exact .done dir
  | stay stays _ ih => exact .stay stays ih
  | up _ ih => exact .up ih
  | into name down short found _ ih => exact .into name down short (keeps _ found) ih
  | @last dir part name down short _ =>
    by_cases found : d'.get? (dir ++ [part]) = some .dir
    · exact .into name down short found (.done _)
    · exact .last name down short found

theorem leads_iff_way (links : d.LinkFree) {n : Nat} {dir l : Location} {parts : List Text} :
    d.Leads dir parts l ↔ d.Way n dir parts l := by
  constructor
  · intro leads
    induction leads with
    | done dir => exact .done n dir
    | stay stays _ ih => exact .stay stays ih
    | up _ ih => exact .up ih
    | into name down short found _ ih => exact .into name down short found ih
    | last name down short closed => exact .last name down short closed (links.plain _)
  · intro way
    induction way with
    | done n dir => exact .done dir
    | stay stays _ ih => exact .stay stays ih
    | up _ ih => exact .up ih
    | into name down short found _ ih => exact .into name down short found ih
    | through _ _ _ found => exact absurd found (links.plain _ _)
    | last name down short closed _ => exact .last name down short closed

theorem walk_eq_ok_iff (links : d.LinkFree) {n : Nat} {dir l : Location} {parts : List Text} :
    d.walk true n dir parts = .ok l ↔ d.Leads dir parts l :=
  walk_true_eq_ok_iff.trans (leads_iff_way links).symm

/-! ## Following paths -/

theorem stat_eq_ok_iff (links : d.LinkFree) {n : Node} :
    d.stat cwd p = .ok n ↔
      pathFault? p = none ∧ d.Leads (startOf cwd p) p.parts (p.locationFrom cwd) ∧
        d.get? (p.locationFrom cwd) = some n := by
  cases fault : pathFault? p with
  | some e => simp [stat, place, fault]
  | none =>
    cases walked : d.walk true maxLinks (startOf cwd p) p.parts with
    | error e =>
      have lost : ¬ d.Leads (startOf cwd p) p.parts (p.locationFrom cwd) := by
        intro leads
        cases walked.symm.trans ((walk_eq_ok_iff links).mpr leads)
      rw [Path.parts] at walked
      simp [stat, place, fault, walked, lost]
    | ok l =>
      have leads := (walk_eq_ok_iff links).mp walked
      obtain rfl : p.locationFrom cwd = l := (Path.locationFrom_eq cwd p).trans leads.eq_foldl
      rw [Path.parts] at walked
      cases held : d.get? (p.locationFrom cwd) with
      | none => simp [stat, place, fault, walked, held]
      | some m => simp [stat, place, fault, walked, held, leads]

/-- What a path leads to is still there if its location holds the same and no directory is gone. -/
theorem stat_keepsDirs (links : d.LinkFree) (links' : d'.LinkFree) (keeps : d.KeepsDirs d') {n : Node}
    (found : d.stat cwd p = .ok n) (same : d'.get? (p.locationFrom cwd) = d.get? (p.locationFrom cwd)) :
    d'.stat cwd p = .ok n := by
  obtain ⟨fault, leads, held⟩ := (stat_eq_ok_iff links).mp found
  exact (stat_eq_ok_iff links').mpr ⟨fault, leads.keepsDirs keeps, same.trans held⟩

theorem read_eq_ok {b : Bytes} (done : d.read cwd p = .ok b) :
    d.stat cwd p = .ok (.file b) ∨ d.stat cwd p = .ok .nullDevice ∧ b = [] := by
  rw [read] at done
  split at done
  · cases done
  · rename_i content found
    cases done
    exact .inl found
  · rename_i found
    cases done
    exact .inr ⟨found, rfl⟩
  · cases done

/-! ## Where files can be kept -/

/-- A path under which a file can be kept: its last part is a name, and the others lead to a directory. -/
def Admits (d : Disk) (cwd : Location) (p : Path) : Prop :=
  pathFault? p = none ∧ ∃ before t dir, p.parts = before ++ [t] ∧ isStay t = false ∧ t ≠ ['.', '.'] ∧
    Text.byteLength t ≤ maxName ∧ d.Leads (startOf cwd p) (before ++ [[]]) dir

theorem Admits.keepsDirs (keeps : d.KeepsDirs d') (admits : d.Admits cwd p) : d'.Admits cwd p := by
  obtain ⟨fault, before, t, dir, cut, name, down, short, leads⟩ := admits
  exact ⟨fault, before, t, dir, cut, name, down, short, leads.keepsDirs keeps⟩

/-- The only entry that a path can name is its location. -/
theorem named?_eq_some_iff_admits (links : d.LinkFree) {l : Location} :
    d.named? cwd p = some l ↔ d.Admits cwd p ∧ l = p.locationFrom cwd := by
  have place {before : List Text} {t : Text} {dir : Location} (parts : p.parts = before ++ [t])
      (name : isStay t = false) (down : t ≠ ['.', '.']) (leads : d.Leads (startOf cwd p) (before ++ [[]]) dir) :
      p.locationFrom cwd = dir ++ [t] := by
    have base := leads.eq_foldl
    rw [List.foldl_append] at base
    rw [Path.locationFrom_eq, parts, List.foldl_append, List.foldl_cons, Path.followPart_of_name name down]
    exact congrArg (· ++ [t]) base
  rw [named?_eq_some_iff]
  constructor
  · rintro ⟨fault, before, t, dir, rfl, parts, name, down, short, way⟩
    have leads := (leads_iff_way links).mpr way
    exact ⟨⟨fault, before, t, dir, parts, name, down, short, leads⟩, (place parts name down leads).symm⟩
  · rintro ⟨⟨fault, before, t, dir, parts, name, down, short, leads⟩, rfl⟩
    exact ⟨fault, before, t, dir, place parts name down leads, parts, name, down, short, (leads_iff_way links).mp leads⟩

theorem Admits.stat (links : d.LinkFree) (admits : d.Admits cwd p) {n : Node}
    (found : d.get? (p.locationFrom cwd) = some n) : d.stat cwd p = .ok n := by
  have named := (named?_eq_some_iff_admits links).mpr ⟨admits, rfl⟩
  exact stat_eq_ok_iff_place.mpr ⟨_, place_of_named named (links.plain _), found⟩

/-! ## What an access does to its location -/

theorem write_eq_ok (links : d.LinkFree) {content : Bytes} (done : d.write cwd p content = .ok d') :
    d.Admits cwd p ∧
      (d.get? (p.locationFrom cwd) = some .nullDevice ∧ d' = d ∨
        d.get? (p.locationFrom cwd) ≠ some .dir ∧ d' = d.set (p.locationFrom cwd) (.file content)) := by
  obtain ⟨l, named, written⟩ := write_at_entry done
  obtain ⟨admits, rfl⟩ := (named?_eq_some_iff_admits links).mp named
  exact ⟨admits, written (links.plain _) (links.lookup_shared _)⟩

theorem remove_eq_ok (links : d.LinkFree) (done : d.remove cwd p = .ok d') :
    d.get? (p.locationFrom cwd) ≠ some .dir ∧ d' = d.erase (p.locationFrom cwd) := by
  obtain ⟨l, named, removed⟩ := remove_at_entry done
  obtain ⟨-, rfl⟩ := (named?_eq_some_iff_admits links).mp named
  exact removed

theorem rename_eq_ok (links : d.LinkFree) (done : d.rename cwd p q = .ok d') :
    d.Admits cwd q ∧ ∃ n, d.get? (p.locationFrom cwd) = some n ∧ n ≠ .dir ∧
      (p.locationFrom cwd = q.locationFrom cwd ∧ d' = d ∨
        p.locationFrom cwd ≠ q.locationFrom cwd ∧ d.get? (q.locationFrom cwd) ≠ some .dir ∧
          d' = (d.erase (p.locationFrom cwd)).set (q.locationFrom cwd) n) := by
  obtain ⟨l, k, n, named, named', moved⟩ := rename_at_entries done
  obtain ⟨-, rfl⟩ := (named?_eq_some_iff_admits links).mp named
  obtain ⟨admits, rfl⟩ := (named?_eq_some_iff_admits links).mp named'
  exact ⟨admits, n, moved.1, moved.2.1, moved.2.2 (links.lookup_shared _)⟩

end Cleave.Disk
