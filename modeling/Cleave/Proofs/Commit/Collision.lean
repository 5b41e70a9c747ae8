import Cleave.Proofs.Commit.Stages
import Cleave.Proofs.Path.Parts

/-!
# Collisions and spellings

A path spells a location: read from left to right in a tree without links, a slash and `.` stay in a directory, `..`
leaves it, and a name enters it (`Reads`). Every path that is not empty spells one location, the one that it is turned
into for the check of a commit (`spells_iff`), and on a disk without links it leads nowhere else (`spells_of_place`).
So the check does not depend on how paths are spelled: it accepts files exactly if no two of the paths meet, and else
refuses the first file that meets the source, the backup or a file before it (`collision_iff_meets`).
-/

namespace Cleave

/-! ## What a path spells -/

namespace Path

/-- A part of a path ends where the text ends or a slash comes. -/
def PartEnds (t : Text) : Prop :=
  t = [] ∨ ∃ rest, t = '/' :: rest

/-- The text of a path read from one location to another, in a tree without links. Above the root is the root. -/
inductive Reads : Location → Text → Location → Prop
  | done (l : Location) : Reads l [] l
  | slash {l m : Location} {t : Text} (onward : Reads l t m) : Reads l ('/' :: t) m
  | here {l m : Location} {t : Text} (ends : PartEnds t) (onward : Reads l t m) : Reads l ('.' :: t) m
  | up {l m : Location} {t : Text} (ends : PartEnds t) (onward : Reads l.dropLast t m) : Reads l ('.' :: '.' :: t) m
  | down {l m : Location} {t name : Text} (named : IsName name) (ends : PartEnds t) (onward : Reads (l ++ [name]) t m) :
    Reads l (name ++ t) m

/-- A path that is not empty spells the location that it reads to, from the root if it starts with a slash and else
from the current directory. -/
def Spells (cwd : Location) (p : Path) (l : Location) : Prop :=
  p.text ≠ [] ∧ Reads (if p.text.head? = some '/' then [] else cwd) p.text l

/-- Two paths spell the same location. -/
def Meet (cwd : Location) (p q : Path) : Prop :=
  ∃ l, p.Spells cwd l ∧ q.Spells cwd l

variable {cwd l m : Location} {p q : Path} {t part : Text}

/-- A part that ends leads one step on, and the rest is followed from there. -/
theorem foldl_pieces_of_ends (free : '/' ∉ part) (ends : PartEnds t) (l : Location) :
    (Text.pieces '/' (part ++ t)).foldl followPart l = (Text.pieces '/' t).foldl followPart (followPart l part) := by
  obtain rfl | ⟨rest, rfl⟩ := ends
  · rw [List.append_nil, Text.pieces_of_free free]
    rfl
  · rw [Text.pieces_append_sep, Text.pieces_of_free free, ← List.nil_append ('/' :: rest), Text.pieces_append_sep]
    rfl

theorem Reads.eq_foldl (reads : Reads l t m) : (Text.pieces '/' t).foldl followPart l = m := by
  induction reads with
  | done l => rfl
  | @slash l m t _ ih =>
    rw [← List.nil_append ('/' :: t), Text.pieces_append_sep]
    exact ih
  | @here l m t ends _ ih => exact (foldl_pieces_of_ends (by decide : '/' ∉ ['.']) ends l).trans ih
  | @up l m t ends _ ih => exact (foldl_pieces_of_ends (by decide : '/' ∉ ['.', '.']) ends l).trans ih
  | @down l m t name named ends _ ih =>
    rw [foldl_pieces_of_ends named.free ends, followPart_of_name named.name named.down, ih]

/-- Whatever a part is, it is read by one of the rules. -/
theorem Reads.of_part (free : '/' ∉ part) (ends : PartEnds t) (onward : Reads (followPart l part) t m) :
    Reads l (part ++ t) m := by
  by_cases empty : part = []
  · subst empty
    exact onward
  · by_cases dot : part = ['.']
    · subst dot
      exact .here ends onward
    · by_cases dots : part = ['.', '.']
      · subst dots
        exact .up ends onward
      · have name : Disk.isStay part = false := by simp [Disk.isStay, empty, dot]
        rw [followPart_of_name name dots] at onward
        exact .down ⟨name, dots, free⟩ ends onward

theorem reads_join {ps : List Text} (some : ps ≠ []) (free : ∀ part ∈ ps, '/' ∉ part) (l : Location) :
    Reads l (Text.join ['/'] ps) (ps.foldl followPart l) := by
  induction ps generalizing l with
  | nil => exact absurd rfl some
  | cons part ps ih =>
    obtain ⟨first, rest⟩ := List.forall_mem_cons.mp free
    cases ps with
    | nil =>
      have reads := Reads.of_part first (.inl rfl) (.done (followPart l part))
      rwa [List.append_nil] at reads
    | cons next ps =>
      rw [Text.join_cons_cons]
      exact .of_part first (.inr ⟨_, rfl⟩) (.slash (ih (by simp) rest _))

/-- Every text reads to the location where its parts lead, and to no other. -/
theorem reads_iff : Reads l t m ↔ m = (Text.pieces '/' t).foldl followPart l := by
  constructor
  · intro reads
    exact reads.eq_foldl.symm
  · rintro rfl
    have reads := reads_join (Text.pieces_ne_nil '/' t) (fun part => Text.notMem_of_mem_pieces) l
    rwa [Text.join_pieces] at reads

theorem spells_iff : p.Spells cwd l ↔ p.text ≠ [] ∧ l = p.locationFrom cwd := by
  have start : (if p.text.head? = some '/' then [] else cwd) = Disk.startOf cwd p := by
    simp [Disk.startOf, isAbsolute]
  rw [Spells, reads_iff, start, locationFrom_eq]
  rfl

/-- A path that leads to a place on a disk without links spells the location of that place. -/
theorem spells_of_place {d : Disk} (links : d.LinkFree) (leads : d.place cwd p = .ok l) : p.Spells cwd l := by
  rw [Disk.place] at leads
  split at leads
  · cases leads
  · rename_i fault
    have filled : p.text ≠ [] := by
      intro empty
      simp [Disk.pathFault?, empty] at fault
    have followed := ((Disk.walk_eq_ok_iff links).mp leads).eq_foldl
    exact spells_iff.mpr ⟨filled, by rw [locationFrom_eq, ← followed, parts]⟩

theorem meet_iff (filled : p.text ≠ []) (filled' : q.text ≠ []) :
    p.Meet cwd q ↔ p.locationFrom cwd = q.locationFrom cwd := by
  simp [Meet, spells_iff, filled, filled']

end Path

namespace Commit

variable {cwd : Location} {source outDir clash : Path} {files before after : List GeneratedFile} {f : GeneratedFile}

/-! ## What the check makes of it -/

/-- No target meets the source, its backup, or another target. -/
structure Apart (cwd : Location) (source outDir : Path) (files : List GeneratedFile) : Prop where
  fromSource : ∀ f ∈ files, ¬ (target outDir f).Meet cwd source
  fromBackup : ∀ f ∈ files, ¬ (target outDir f).Meet cwd (backupPath source)
  fromOthers : files.Pairwise fun f g => ¬ (target outDir f).Meet cwd (target outDir g)

/-- The target of a file meets the source, or else its backup, or else the target of an earlier file, which is named by
its location. -/
inductive Clashes (cwd : Location) (source outDir : Path) (before : List GeneratedFile) (f : GeneratedFile) : Path → Prop
  | source (meets : (target outDir f).Meet cwd source) : Clashes cwd source outDir before f source
  | backup (apart : ¬ (target outDir f).Meet cwd source) (meets : (target outDir f).Meet cwd (backupPath source)) :
    Clashes cwd source outDir before f (backupPath source)
  | earlier {g : GeneratedFile} {l : Location} (apart : ¬ (target outDir f).Meet cwd source)
    (apart' : ¬ (target outDir f).Meet cwd (backupPath source)) (member : g ∈ before)
    (old : (target outDir g).Spells cwd l) (again : (target outDir f).Spells cwd l) :
    Clashes cwd source outDir before f (.ofLocation l)

theorem apart_append_singleton : Apart cwd source outDir (before ++ [f]) ↔
    Apart cwd source outDir before ∧ ¬ (target outDir f).Meet cwd source ∧
      ¬ (target outDir f).Meet cwd (backupPath source) ∧
      ∀ g ∈ before, ¬ (target outDir g).Meet cwd (target outDir f) := by
  constructor
  · rintro ⟨atSource, atBackup, others⟩
    obtain ⟨pairs, -, across⟩ := List.pairwise_append.mp others
    have first : Apart cwd source outDir before :=
      ⟨fun g member => atSource g (List.mem_append_left _ member),
        fun g member => atBackup g (List.mem_append_left _ member), pairs⟩
    exact ⟨first, atSource f (by simp), atBackup f (by simp), fun g member => across g member f (by simp)⟩
  · rintro ⟨⟨atSource, atBackup, pairs⟩, last, last', fresh⟩
    refine ⟨?_, ?_, List.pairwise_append.mpr ⟨pairs, List.pairwise_singleton _ _, by simpa using fresh⟩⟩
    · simpa [or_imp, forall_and] using ⟨atSource, last⟩
    · simpa [or_imp, forall_and] using ⟨atBackup, last'⟩

/-- Files that are not apart have a first one that clashes. -/
theorem exists_first_clash (meets : ¬ Apart cwd source outDir files) :
    ∃ before f after clash, files = before ++ f :: after ∧ Apart cwd source outDir before ∧
      Clashes cwd source outDir before f clash := by
  induction files using List.reverseRecOn with
  | nil => exact absurd ⟨by simp, by simp, .nil⟩ meets
  | append_singleton files f ih =>
    by_cases apart : Apart cwd source outDir files
    · rw [apart_append_singleton, not_and] at meets
      have clashes : ∃ clash, Clashes cwd source outDir files f clash := by
        by_cases atSource : (target outDir f).Meet cwd source
        · exact ⟨_, .source atSource⟩
        · by_cases atBackup : (target outDir f).Meet cwd (backupPath source)
          · exact ⟨_, .backup atSource atBackup⟩
          · have again := meets apart
            simp only [atSource, atBackup, not_false_eq_true, true_and, not_forall, not_not] at again
            obtain ⟨g, member, l, old, new⟩ := again
            exact ⟨_, .earlier atSource atBackup member old new⟩
      obtain ⟨clash, clashes⟩ := clashes
      exact ⟨files, f, [], clash, rfl, apart, clashes⟩
    · obtain ⟨before, g, after, clash, rfl, free, clashes⟩ := ih apart
      exact ⟨before, g, after ++ [f], clash, by simp, free, clashes⟩

theorem resolve_of_filled {p : Path} (filled : p.text ≠ []) : resolve cwd p = .ok (p.locationFrom cwd) := by
  simp [resolve, Path.resolve?, filled]

theorem backup_filled (source : Path) : (backupPath source).text ≠ [] := by
  simp [backupPath, Path.append]

theorem checkDistinct_eq (filled : source.text ≠ []) : checkDistinct cwd source outDir files =
    checkFrom cwd source outDir (source.locationFrom cwd) ((backupPath source).locationFrom cwd) [] files := by
  rw [checkDistinct, resolve_of_filled filled, resolve_of_filled (backup_filled source)]
  rfl

theorem checkFrom_cons {sourceAt backupAt : Location} {seen : List Location} (filled : (target outDir f).text ≠ []) :
    checkFrom cwd source outDir sourceAt backupAt seen (f :: files) =
      if (target outDir f).locationFrom cwd = sourceAt then .error (.collision (target outDir f) source)
      else if (target outDir f).locationFrom cwd = backupAt then
        .error (.collision (target outDir f) (backupPath source))
      else if (target outDir f).locationFrom cwd ∈ seen then
        .error (.collision (target outDir f) (.ofLocation ((target outDir f).locationFrom cwd)))
      else
        checkFrom cwd source outDir sourceAt backupAt (seen ++ [(target outDir f).locationFrom cwd]) files := by
  rw [checkFrom, resolve_of_filled filled]
  rfl

/-- Files that are apart are passed, and their locations have been seen. -/
theorem checkFrom_append {sourceAt backupAt : Location} {seen : List Location} {rest : List GeneratedFile}
    (each : ∀ g ∈ before, (target outDir g).text ≠ [] ∧ (target outDir g).locationFrom cwd ≠ sourceAt ∧
      (target outDir g).locationFrom cwd ≠ backupAt ∧ (target outDir g).locationFrom cwd ∉ seen)
    (pairs : before.Pairwise fun f g => (target outDir f).locationFrom cwd ≠ (target outDir g).locationFrom cwd) :
    checkFrom cwd source outDir sourceAt backupAt seen (before ++ rest) =
      checkFrom cwd source outDir sourceAt backupAt (seen ++ before.map fun g => (target outDir g).locationFrom cwd)
        rest := by
  induction before generalizing seen with
  | nil => simp
  | cons g before ih =>
    obtain ⟨⟨filled, atSource, atBackup, fresh⟩, later⟩ := List.forall_mem_cons.mp each
    obtain ⟨first, pairs⟩ := List.pairwise_cons.mp pairs
    have further : ∀ h ∈ before, (target outDir h).text ≠ [] ∧ (target outDir h).locationFrom cwd ≠ sourceAt ∧
        (target outDir h).locationFrom cwd ≠ backupAt ∧
        (target outDir h).locationFrom cwd ∉ seen ++ [(target outDir g).locationFrom cwd] := by
      intro h member
      obtain ⟨filled, atSource, atBackup, fresh⟩ := later h member
      exact ⟨filled, atSource, atBackup, by simpa [fresh] using (first h member).symm⟩
    rw [List.cons_append, checkFrom_cons filled, if_neg atSource, if_neg atBackup, if_neg fresh, ih further pairs,
      List.map_cons, List.append_assoc, List.singleton_append]

theorem checkDistinct_append (named : source.text ≠ []) (filled : ∀ g ∈ before, (target outDir g).text ≠ [])
    (apart : Apart cwd source outDir before) (rest : List GeneratedFile) :
    checkDistinct cwd source outDir (before ++ rest) =
      checkFrom cwd source outDir (source.locationFrom cwd) ((backupPath source).locationFrom cwd)
        (before.map fun g => (target outDir g).locationFrom cwd) rest := by
  have each : ∀ g ∈ before, (target outDir g).text ≠ [] ∧
      (target outDir g).locationFrom cwd ≠ source.locationFrom cwd ∧
      (target outDir g).locationFrom cwd ≠ (backupPath source).locationFrom cwd ∧
      (target outDir g).locationFrom cwd ∉ [] := by
    intro g member
    have atSource := apart.fromSource g member
    have atBackup := apart.fromBackup g member
    rw [Path.meet_iff (filled g member) named] at atSource
    rw [Path.meet_iff (filled g member) (backup_filled source)] at atBackup
    exact ⟨filled g member, atSource, atBackup, by simp⟩
  have pairs : before.Pairwise fun f g => (target outDir f).locationFrom cwd ≠ (target outDir g).locationFrom cwd := by
    refine apart.fromOthers.imp_of_mem fun {f g} member member' others => ?_
    rwa [Path.meet_iff (filled f member) (filled g member')] at others
  rw [checkDistinct_eq named, checkFrom_append each pairs, List.nil_append]

theorem checkDistinct_of_apart (named : source.text ≠ []) (filled : ∀ g ∈ files, (target outDir g).text ≠ [])
    (apart : Apart cwd source outDir files) : checkDistinct cwd source outDir files = .ok () := by
  have checked := checkDistinct_append named filled apart []
  rwa [List.append_nil] at checked

theorem checkDistinct_of_clashes (named : source.text ≠ [])
    (filled : ∀ g ∈ before ++ f :: after, (target outDir g).text ≠ []) (apart : Apart cwd source outDir before)
    (clashes : Clashes cwd source outDir before f clash) :
    checkDistinct cwd source outDir (before ++ f :: after) = .error (.collision (target outDir f) clash) := by
  have here := filled f (by simp)
  have atSource : (target outDir f).Meet cwd source ↔ _ := Path.meet_iff here named
  have atBackup : (target outDir f).Meet cwd (backupPath source) ↔ _ := Path.meet_iff here (backup_filled source)
  rw [checkDistinct_append named (fun g member => filled g (List.mem_append_left _ member)) apart, checkFrom_cons here]
  cases clashes with
  | source meets => rw [if_pos (atSource.mp meets)]
  | backup apart meets => rw [if_neg (atSource.not.mp apart), if_pos (atBackup.mp meets)]
  | @earlier g l apart apart' member old again =>
    obtain ⟨-, rfl⟩ := Path.spells_iff.mp again
    have seen : (target outDir f).locationFrom cwd ∈ before.map fun g => (target outDir g).locationFrom cwd :=
      List.mem_map.mpr ⟨g, member, (Path.spells_iff.mp old).2.symm⟩
    rw [if_neg (atSource.not.mp apart), if_neg (atBackup.not.mp apart'), if_pos seen]

/-- Whether files collide does not depend on how their paths are spelled. If the source and all targets are paths that
are not empty, the check accepts the files exactly if no target spells the location of the source, of its backup, or of
another target. Otherwise it refuses the first file in their order that spells the location of the source, or else of
the backup, or else of an earlier target, and it names the target and what it meets. -/
theorem collision_iff_meets (cwd : Location) (source outDir : Path) (files : List GeneratedFile)
    (named : source.text ≠ []) (filled : ∀ f ∈ files, (target outDir f).text ≠ []) :
    (checkDistinct cwd source outDir files = .ok () ↔ Apart cwd source outDir files) ∧
      ∀ e, checkDistinct cwd source outDir files = .error e ↔
        ∃ before f after clash, files = before ++ f :: after ∧ Apart cwd source outDir before ∧
          Clashes cwd source outDir before f clash ∧ e = .collision (target outDir f) clash := by
  have refuses : ∀ before f after clash, files = before ++ f :: after → Apart cwd source outDir before →
      Clashes cwd source outDir before f clash →
      checkDistinct cwd source outDir files = .error (.collision (target outDir f) clash) := by
    rintro before f after clash rfl apart clashes
    exact checkDistinct_of_clashes named filled apart clashes
  constructor
  · refine ⟨fun accepted => ?_, checkDistinct_of_apart named filled⟩
    by_contra meets
    obtain ⟨before, f, after, clash, cut, apart, clashes⟩ := exists_first_clash meets
    cases accepted.symm.trans (refuses before f after clash cut apart clashes)
  · intro e
    constructor
    · intro failed
      have meets : ¬ Apart cwd source outDir files := by
        intro apart
        cases failed.symm.trans (checkDistinct_of_apart named filled apart)
      obtain ⟨before, f, after, clash, cut, apart, clashes⟩ := exists_first_clash meets
      have same := failed.symm.trans (refuses before f after clash cut apart clashes)
      exact ⟨before, f, after, clash, cut, apart, clashes, Except.error.inj same⟩
    · rintro ⟨before, f, after, clash, cut, apart, clashes, rfl⟩
      exact refuses before f after clash cut apart clashes

/-- The source and the first target are spelled over detours and stay apart; the second target is the first one. -/
theorem collision_iff_meets_sample :
    Apart ["w".toList] ⟨"a/../db.ts".toList⟩ ⟨"./out/..".toList⟩ [⟨⟨"task.ts".toList⟩, []⟩] ∧
      ∃ before f after, [⟨⟨"task.ts".toList⟩, []⟩, ⟨⟨".//x/../task.ts".toList⟩, []⟩] = before ++ f :: after ∧
        Apart ["w".toList] ⟨"a/../db.ts".toList⟩ ⟨"./out/..".toList⟩ before ∧
        Clashes ["w".toList] ⟨"a/../db.ts".toList⟩ ⟨"./out/..".toList⟩ before f ⟨"/w/task.ts".toList⟩ := by
  constructor
  · exact (collision_iff_meets ["w".toList] ⟨"a/../db.ts".toList⟩ ⟨"./out/..".toList⟩ [⟨⟨"task.ts".toList⟩, []⟩]
      (by decide) (by decide)).1.mp (by decide +kernel)
  · have refused : checkDistinct ["w".toList] ⟨"a/../db.ts".toList⟩ ⟨"./out/..".toList⟩
        [⟨⟨"task.ts".toList⟩, []⟩, ⟨⟨".//x/../task.ts".toList⟩, []⟩] =
          .error (.collision ⟨"./out/.././/x/../task.ts".toList⟩ ⟨"/w/task.ts".toList⟩) := by
      decide +kernel
    obtain ⟨before, f, after, clash, cut, apart, clashes, same⟩ :=
      ((collision_iff_meets _ _ _ _ (by decide) (by decide)).2 _).mp refused
    obtain ⟨-, rfl⟩ := WriteError.collision.inj same
    exact ⟨before, f, after, cut, apart, clashes⟩

end Commit

end Cleave
