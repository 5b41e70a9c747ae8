import Cleave.Proofs.Disk.Location

/-!
# Ways through links

`Way` says where parts lead when the links on the way are followed. It asks for directories and links, so what leads
somewhere still leads there as long as these stay. The last part of a path names an entry of the directory that the
other parts lead to (`named?`), and what is held there is reached by the path unless it is a link.
-/

namespace Cleave.Disk

variable {d d' d'' : Disk} {cwd dir l m : Location} {p q : Path} {ps qs parts : List Text} {n : Nat}

/-! ## Following parts -/

/-- Parts lead from one location to another through directories and at most so many links. -/
inductive Way (d : Disk) : Nat → Location → List Text → Location → Prop
  | done (n : Nat) (dir : Location) : Way d n dir [] dir
  | stay {n : Nat} {dir l : Location} {part : Text} {rest : List Text} (stays : isStay part = true)
      (onward : Way d n dir rest l) : Way d n dir (part :: rest) l
  | up {n : Nat} {dir l : Location} {rest : List Text} (onward : Way d n dir.dropLast rest l) :
      Way d n dir (['.', '.'] :: rest) l
  | into {n : Nat} {dir l : Location} {part : Text} {rest : List Text} (name : isStay part = false)
      (down : part ≠ ['.', '.']) (short : Text.byteLength part ≤ maxName)
      (found : d.get? (dir ++ [part]) = some .dir) (onward : Way d n (dir ++ [part]) rest l) :
      Way d n dir (part :: rest) l
  | through {n : Nat} {dir l : Location} {part : Text} {rest : List Text} {target : Path}
      (name : isStay part = false) (down : part ≠ ['.', '.']) (short : Text.byteLength part ≤ maxName)
      (found : d.get? (dir ++ [part]) = some (.link target)) (filled : target.text ≠ [])
      (onward : Way d n (startOf dir target) (target.parts ++ rest) l) : Way d (n + 1) dir (part :: rest) l
  | last {n : Nat} {dir : Location} {part : Text} (name : isStay part = false) (down : part ≠ ['.', '.'])
      (short : Text.byteLength part ≤ maxName) (closed : d.get? (dir ++ [part]) ≠ some .dir)
      (plain : ∀ target, d.get? (dir ++ [part]) ≠ some (.link target)) : Way d n dir [part] (dir ++ [part])

theorem way_of_walkParts {enter : Location → List Text → Except DiskError Location}
    (enters : ∀ dir parts l, enter dir parts = .ok l → ∃ k, n = k + 1 ∧ d.Way k dir parts l)
    (walked : walkParts d true enter dir parts = .ok l) : d.Way n dir parts l := by
  induction parts generalizing dir with
  | nil =>
    cases walked
    exact .done _ _
  | cons part rest ih =>
    rw [walkParts] at walked
    split at walked
    · rename_i stays
      exact .stay stays (ih walked)
    · rename_i name
      rw [Bool.not_eq_true] at name
      split at walked
      · rename_i up
        subst up
        exact .up (ih walked)
      · rename_i down
        split at walked
        · cases walked
        · rename_i short
          rw [Nat.not_lt] at short
          dsimp only at walked
          split at walked
          · rename_i target found
            simp only [Bool.not_true, Bool.and_false, Bool.false_eq_true, if_false] at walked
            split at walked
            · cases walked
            · rename_i filled
              obtain ⟨k, rfl, onward⟩ := enters _ _ _ walked
              exact .through name down short found filled onward
          · rename_i found
            exact .into name down short found (ih walked)
          · rename_i other inside found
            split at walked
            · rename_i final
              subst final
              cases walked
              refine .last name down short ?_ fun target => ?_
              · rw [found]
                simpa using inside
              · rw [found]
                simpa using other target
            · cases walked
          · rename_i missing
            split at walked
            · rename_i final
              subst final
              cases walked
              exact .last name down short (by simp [missing]) (by simp [missing])
            · cases walked

theorem way_of_walk (walked : d.walk true n dir parts = .ok l) : d.Way n dir parts l := by
  induction n generalizing dir parts l with
  | zero => exact way_of_walkParts (fun _ _ _ entered => by cases entered) walked
  | succ n ih => exact way_of_walkParts (fun _ _ _ entered => ⟨n, rfl, ih entered⟩) walked

theorem Way.walk (way : d.Way n dir parts l) : d.walk true n dir parts = .ok l := by
  induction way with
  | done n dir => cases n <;> rfl
  | @stay n dir l part rest stays _ ih => cases n <;> simpa [Disk.walk, walkParts, stays] using ih
  | @up n dir l rest _ ih => cases n <;> simpa [Disk.walk, walkParts, isStay] using ih
  | @into n dir l part rest name down short found _ ih =>
    cases n <;> simpa [Disk.walk, walkParts, name, down, Nat.not_lt.mpr short, found] using ih
  | through name down short found filled _ ih =>
    rw [Path.parts] at ih
    simpa [Disk.walk, walkParts, name, down, Nat.not_lt.mpr short, found, filled] using ih
  | @last n dir part name down short closed plain =>
    have ends : ∀ enter, walkParts d true enter dir [part] = .ok (dir ++ [part]) := by
      intro enter
      simp only [walkParts, name, down, Nat.not_lt.mpr short]
      cases held : d.get? (dir ++ [part]) with
      | none => rfl
      | some n =>
        cases n with
        | dir => exact absurd held closed
        | link target => exact absurd held (plain target)
        | file content => rfl
        | nullDevice => rfl
    cases n <;> exact ends _

theorem walk_true_eq_ok_iff : d.walk true n dir parts = .ok l ↔ d.Way n dir parts l :=
  ⟨way_of_walk, Way.walk⟩

/-- Parts that lead to a directory can be followed by others. -/
theorem Way.append (first : d.Way n dir (ps ++ [[]]) m) (second : ∀ n, d.Way n m qs l) :
    d.Way n dir (ps ++ qs) l := by
  generalize whole : ps ++ [[]] = parts at first
  induction first generalizing ps with
  | done n dir => simp at whole
  | @stay n dir m part rest stays onward ih =>
    cases ps with
    | nil =>
      obtain ⟨rfl, rfl⟩ := List.cons.inj whole
      cases onward
      exact second n
    | cons q ps =>
      obtain ⟨rfl, tail⟩ := List.cons.inj whole
      exact .stay stays (ih second tail)
  | up onward ih =>
    cases ps with
    | nil => cases whole
    | cons q ps =>
      obtain ⟨rfl, tail⟩ := List.cons.inj whole
      exact .up (ih second tail)
  | into name down short found onward ih =>
    cases ps with
    | nil =>
      obtain ⟨rfl, -⟩ := List.cons.inj whole
      cases name
    | cons q ps =>
      obtain ⟨rfl, tail⟩ := List.cons.inj whole
      exact .into name down short found (ih second tail)
  | @through n dir m part rest target name down short found filled onward ih =>
    cases ps with
    | nil =>
      obtain ⟨rfl, -⟩ := List.cons.inj whole
      cases name
    | cons q ps =>
      obtain ⟨rfl, rfl⟩ := List.cons.inj whole
      -- the parts of the target come before, and what follows still ends where it did
      have onward' := @ih (target.parts ++ ps) second (List.append_assoc ..)
      rw [List.append_assoc] at onward'
      exact .through name down short found filled onward'
  | last name _ _ _ _ =>
    cases ps with
    | nil =>
      obtain ⟨rfl, -⟩ := List.cons.inj whole
      cases name
    | cons q ps => simp at whole

/-! ## Ways that stay -/

/-- Directories stay directories. -/
def KeepsDirs (d d' : Disk) : Prop :=
  ∀ l, d.get? l = some .dir → d'.get? l = some .dir

/-- Directories stay directories, links stay as they are, and no link comes. -/
structure KeepsWays (d d' : Disk) : Prop where
  dirs : d.KeepsDirs d'
  links : ∀ l target, d'.get? l = some (.link target) ↔ d.get? l = some (.link target)

theorem KeepsWays.trans (first : d.KeepsWays d') (second : d'.KeepsWays d'') : d.KeepsWays d'' :=
  ⟨fun l found => second.dirs l (first.dirs l found), fun l target => (second.links l target).trans (first.links l target)⟩

theorem Way.keepsWays (keeps : d.KeepsWays d') (way : d.Way n dir parts l) : d'.Way n dir parts l := by
  induction way with
  | done n dir => exact .done n dir
  | stay stays _ ih => exact .stay stays ih
  | up _ ih => exact .up ih
  | into name down short found _ ih => exact .into name down short (keeps.dirs _ found) ih
  | through name down short found filled _ ih =>
    exact .through name down short ((keeps.links _ _).mpr found) filled ih
  | @last n dir part name down short _ plain =>
    by_cases found : d'.get? (dir ++ [part]) = some .dir
    · exact .into name down short found (.done _ _)
    · exact .last name down short found fun target linked => plain target ((keeps.links _ target).mp linked)

theorem place_eq_ok_iff :
    d.place cwd p = .ok l ↔ pathFault? p = none ∧ d.Way maxLinks (startOf cwd p) p.parts l := by
  rw [← walk_true_eq_ok_iff, Path.parts, place]
  cases pathFault? p <;> simp

theorem stat_eq_ok_iff_place {n : Node} : d.stat cwd p = .ok n ↔ ∃ l, d.place cwd p = .ok l ∧ d.get? l = some n := by
  rw [stat]
  cases d.place cwd p with
  | error e => simp
  | ok l => cases held : d.get? l <;> simp [held]

/-- A path leads to the same place as long as the ways stay. -/
theorem KeepsWays.place (keeps : d.KeepsWays d') (leads : d.place cwd p = .ok l) : d'.place cwd p = .ok l := by
  obtain ⟨fault, way⟩ := place_eq_ok_iff.mp leads
  exact place_eq_ok_iff.mpr ⟨fault, way.keepsWays keeps⟩

/-! ## Entries -/

/-- The last part of a path without a slash at its end is its last name. -/
theorem splitLast_eq_iff {before : List Text} {t : Text} : splitLast p = (before, .name t false) ↔
    p.parts = before ++ [t] ∧ isStay t = false ∧ t ≠ ['.', '.'] := by
  rw [splitLast, ← Path.parts]
  constructor
  · intro cut
    split at cut
    · cases cut
    · rename_i last before' turned
      split at cut
      · cases cut
      · rename_i special
        obtain ⟨rfl, same⟩ := Prod.mk.inj cut
        obtain ⟨rfl, plain⟩ := Last.name.inj same
        have slashes : (p.parts.reverse.takeWhile (· = [])).length = 0 := by simpa using plain
        rw [slashes, Nat.sub_zero, List.take_length] at turned
        rw [turned] at slashes
        have filled : last ≠ [] := by
          rintro rfl
          simp at slashes
        simp only [Bool.or_eq_true, decide_eq_true_eq, not_or] at special
        exact ⟨by simpa using congrArg List.reverse turned, by simp [isStay, filled, special.1], special.2⟩
  · rintro ⟨parts, name, down⟩
    obtain ⟨filled, dot⟩ : t ≠ [] ∧ t ≠ ['.'] := by simpa [isStay] using name
    have whole : (before ++ [t]).take (before.length + 1) = before ++ [t] := List.take_of_length_le (by simp)
    simp [parts, filled, whole, dot, down]

/-- The place that a path names in the directory that holds its last part. A path that ends with a slash, `.` or `..`
names none, and neither does a last part that is too long. -/
def named? (d : Disk) (cwd : Location) (p : Path) : Option Location :=
  match d.holder cwd p with
  | .ok (dir, .name t false) => if maxName < Text.byteLength t then none else some (dir ++ [t])
  | _ => none

theorem holder_eq_ok_iff {last : Last} : d.holder cwd p = .ok (dir, last) ↔
    pathFault? p = none ∧ (splitLast p).2 = last ∧ d.Way maxLinks (startOf cwd p) ((splitLast p).1 ++ [[]]) dir := by
  rw [← walk_true_eq_ok_iff, holder]
  cases pathFault? p with
  | some e => simp
  | none =>
    dsimp only
    cases d.walk true maxLinks (startOf cwd p) ((splitLast p).1 ++ [[]]) with
    | error e => simp
    | ok dir' => simp [and_comm]

theorem named?_of_holder {t : Text} (held : d.holder cwd p = .ok (dir, .name t false))
    (short : ¬ maxName < Text.byteLength t) : d.named? cwd p = some (dir ++ [t]) := by
  simp [named?, held, short]

/-- The last part of a path that names an entry is a name, and the parts before lead to a directory. -/
theorem named?_eq_some_iff : d.named? cwd p = some l ↔ pathFault? p = none ∧ ∃ before t dir, l = dir ++ [t] ∧
    p.parts = before ++ [t] ∧ isStay t = false ∧ t ≠ ['.', '.'] ∧ Text.byteLength t ≤ maxName ∧
      d.Way maxLinks (startOf cwd p) (before ++ [[]]) dir := by
  constructor
  · intro named
    rw [named?] at named
    split at named
    · rename_i dir t held
      split at named
      · cases named
      · rename_i short
        obtain ⟨fault, last, way⟩ := holder_eq_ok_iff.mp held
        obtain ⟨parts, name, down⟩ := splitLast_eq_iff.mp (Prod.ext rfl last)
        exact ⟨fault, _, t, dir, (Option.some.inj named).symm, parts, name, down, Nat.not_lt.mp short, way⟩
    · cases named
  · rintro ⟨fault, before, t, dir, rfl, parts, name, down, short, way⟩
    have cut := splitLast_eq_iff.mpr ⟨parts, name, down⟩
    refine named?_of_holder (holder_eq_ok_iff.mpr ⟨fault, ?_, ?_⟩) (Nat.not_lt.mpr short)
    · rw [cut]
    · rwa [cut]

theorem KeepsWays.named? (keeps : d.KeepsWays d') (named : d.named? cwd p = some l) : d'.named? cwd p = some l := by
  obtain ⟨fault, before, t, dir, same, parts, name, down, short, way⟩ := named?_eq_some_iff.mp named
  exact named?_eq_some_iff.mpr ⟨fault, before, t, dir, same, parts, name, down, short, way.keepsWays keeps⟩

/-- The name of an entry is the last part of its path. -/
theorem getLast?_named (named : d.named? cwd p = some l) : l.getLast? = some p.lastPart := by
  obtain ⟨-, before, t, dir, rfl, parts, -⟩ := named?_eq_some_iff.mp named
  have last : p.lastPart = t := by simp [Path.lastPart, parts]
  rw [List.getLast?_concat, last]

/-- Paths with an ending name other entries than the paths themselves. -/
theorem named?_append_ne {s : String} (ending : Path.Ending s) (named : d.named? cwd (p.append s) = some l) :
    d'.named? cwd p ≠ some l := by
  intro same
  have cut : (p.append s).parts = p.parts.dropLast ++ [p.lastPart ++ s.toList] :=
    Text.pieces_append ending.free (List.dropLast_concat_getLast p.parts_ne_nil).symm
  have last : (p.append s).lastPart = p.lastPart ++ s.toList := by simp [Path.lastPart, cut]
  have long := ending.long
  have lengths := congrArg (Option.map List.length) ((getLast?_named named).symm.trans (getLast?_named same))
  simp only [last, Option.map_some, List.length_append, Option.some.injEq] at lengths
  omega

/-- A path leads to its entry if no link is there. -/
theorem place_of_named (named : d.named? cwd p = some l) (plain : ∀ target, d.get? l ≠ some (.link target)) :
    d.place cwd p = .ok l := by
  obtain ⟨fault, before, t, dir, rfl, parts, name, down, short, way⟩ := named?_eq_some_iff.mp named
  have final : ∀ n, d.Way n dir [t] (dir ++ [t]) := by
    intro n
    by_cases inside : d.get? (dir ++ [t]) = some .dir
    · exact .into name down short inside (.done _ _)
    · exact .last name down short inside plain
  rw [place_eq_ok_iff, parts]
  exact ⟨fault, way.append final⟩

/-! ## What an access does to its entry -/

/-- A directory is made where nothing was. -/
theorem makeDir_at_empty (done : d.makeDir cwd p = .ok d') : ∃ l, d.get? l = none ∧ d' = d.set l .dir := by
  rw [makeDir] at done
  split at done
  · cases done
  · cases done
  · rename_i dir t slash held
    split at done
    · cases done
    · split at done
      · cases done
      · rename_i missing
        cases done
        exact ⟨dir ++ [t], missing, rfl⟩

/-- A file is written at the entry of its path, unless there is a link. -/
theorem filePlace_at_entry (found : d.filePlace n cwd p = .ok l) :
    ∃ k, d.named? cwd p = some k ∧ ((∀ target, d.get? k ≠ some (.link target)) → l = k) := by
  rw [filePlace] at found
  split at found
  · cases found
  · cases found
  · cases found
  · rename_i dir t held
    split at found
    · cases found
    · rename_i short
      refine ⟨dir ++ [t], named?_of_holder held short, fun plain => ?_⟩
      split at found
      · cases found
      · rename_i target _ linked
        exact absurd linked (plain target)
      · cases found
        rfl

/-- A file with one name is put in its place anew. -/
theorem refill_of_single (single : d.shared.lookup l = none) (content : Bytes) :
    d.refill l content = d.set l (.file content) := by
  rw [refill, single]

/-- What is written to an entry that is no link and no file with several names is put in its place. -/
theorem write_at_entry {content : Bytes} (done : d.write cwd p content = .ok d') :
    ∃ l, d.named? cwd p = some l ∧ ((∀ target, d.get? l ≠ some (.link target)) → d.shared.lookup l = none →
      d.get? l = some .nullDevice ∧ d' = d ∨ d.get? l ≠ some .dir ∧ d' = d.set l (.file content)) := by
  rw [write] at done
  split at done
  · cases done
  · rename_i k found
    obtain ⟨l, named, place⟩ := filePlace_at_entry found
    refine ⟨l, named, fun plain single => ?_⟩
    obtain rfl := place plain
    rw [store, refill_of_single single] at done
    split at done
    · cases done
    · rename_i device
      cases done
      exact .inl ⟨device, rfl⟩
    · rename_i old found
      cases done
      exact .inr ⟨by simp [found], rfl⟩
    · rename_i other _ _
      cases done
      exact .inr ⟨other, rfl⟩

theorem remove_at_entry (done : d.remove cwd p = .ok d') :
    ∃ l, d.named? cwd p = some l ∧ d.get? l ≠ some .dir ∧ d' = d.erase l := by
  rw [remove] at done
  split at done
  · cases done
  · cases done
  · rename_i dir t slash held
    split at done
    · cases done
    · rename_i short
      split at done
      · cases done
      · cases done
      · rename_i n other found
        split at done
        · cases done
        · rename_i plain
          rw [Bool.not_eq_true] at plain
          subst plain
          cases done
          exact ⟨dir ++ [t], named?_of_holder held short,
            fun same => other (Option.some.inj (found.symm.trans same)), rfl⟩

theorem sameFile_of_single (single : d.shared.lookup l = none) (m : Location) : d.sameFile l m = true ↔ l = m := by
  simp [sameFile, single]

/-- What an entry holds that is no file with several names goes to the entry of the other path. -/
theorem rename_at_entries (done : d.rename cwd p q = .ok d') :
    ∃ l k n, d.named? cwd p = some l ∧ d.named? cwd q = some k ∧ d.get? l = some n ∧ n ≠ .dir ∧
      (d.shared.lookup l = none →
        l = k ∧ d' = d ∨ l ≠ k ∧ d.get? k ≠ some .dir ∧ d' = (d.erase l).set k n) := by
  rw [rename] at done
  split at done
  · cases done
  · cases done
  · rename_i dir t slash dir' t' slash' held held'
    split at done
    · cases done
    · rename_i long
      rw [Bool.or_eq_true, decide_eq_true_eq, decide_eq_true_eq, not_or] at long
      rw [move] at done
      split at done
      · cases done
      · cases done
      · rename_i n other found
        split at done
        · cases done
        · rename_i plain
          rw [Bool.or_eq_true, not_or, Bool.not_eq_true, Bool.not_eq_true] at plain
          obtain ⟨rfl, rfl⟩ := plain
          refine ⟨dir ++ [t], dir' ++ [t'], n, named?_of_holder held long.1, named?_of_holder held' long.2, found, other, ?_⟩
          intro single
          simp only [sameFile_of_single single, relocate, single] at done
          split at done
          · rename_i same
            cases done
            exact .inl ⟨same, rfl⟩
          · rename_i apart
            split at done
            · cases done
            · rename_i free
              cases done
              exact .inr ⟨apart, free, rfl⟩
  · cases done

end Cleave.Disk
