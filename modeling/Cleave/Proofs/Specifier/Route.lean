import Mathlib.Data.List.Induction
import Cleave.Specifier
import Cleave.Proofs.Path.Parts

/-!
# Routes between folded paths

The folded parts of an absolute path start with the root, or with as many `..` as it climbs above the root, and go on
with names. What they denote (`Denotes`) is the location of the path, where climbing above the root stays at the root.
Going up from one location drops the parts that the other path does not share, so a route leads to its target
(`walk_route`), and the text of a specifier leads where its route leads (`locationFrom_join_spell`).
-/

namespace Cleave.Specifier

open Cleave.Path

variable {ps qs : List Text} {l m : Location}

/-- Folded parts of an absolute path, with the location that they denote. -/
inductive Denotes : List Text → Location → Prop
  | root : Denotes [['/']] []
  | climb (n : Nat) : Denotes (List.replicate n ['.', '.']) []
  | name {ps : List Text} {l : Location} {t : Text} (before : Denotes ps l) (named : IsName t) :
      Denotes (ps ++ [t]) (l ++ [t])

namespace Denotes

/-- Folding one component follows it. -/
theorem fold (denotes : Denotes ps l) {c : Component} (inner : c.IsInner) :
    Denotes (Specifier.fold id ps c) (follow l c) := by
  cases c with
  | root => exact inner.elim
  | here => exact denotes
  | name t => exact denotes.name inner
  | up =>
    cases denotes with
    | root => exact .climb 0
    | climb n =>
      cases n with
      | zero => exact .climb 1
      | succ n =>
        have last : (List.replicate (n + 1) ['.', '.']).getLast? = some ['.', '.'] := by simp [List.getLast?_replicate]
        rw [Specifier.fold, last]
        dsimp only
        rw [if_pos rfl, ← List.replicate_succ']
        exact .climb (n + 2)
    | @name ps l t before named =>
      rw [Specifier.fold, List.getLast?_concat]
      dsimp only
      rw [if_neg named.down, List.dropLast_concat, follow, List.dropLast_concat]
      exact before

theorem foldl (denotes : Denotes ps l) {cs : List Component} (inner : ∀ c ∈ cs, c.IsInner) :
    Denotes (cs.foldl (Specifier.fold id) ps) (cs.foldl follow l) := by
  induction cs generalizing ps l with
  | nil => exact denotes
  | cons c cs ih =>
    obtain ⟨first, rest⟩ := List.forall_mem_cons.mp inner
    exact ih (denotes.fold first) rest

/-- Dropping the last part is one step up, which stays at the root. -/
theorem up {t : Text} (denotes : Denotes (ps ++ [t]) l) : Denotes ps l.dropLast := by
  generalize whole : ps ++ [t] = qs at denotes
  cases denotes with
  | root =>
    obtain ⟨rfl, -⟩ := List.append_inj' (whole.trans (List.nil_append _).symm) rfl
    exact .climb 0
  | climb n =>
    cases n with
    | zero => simp at whole
    | succ n =>
      rw [List.replicate_succ'] at whole
      obtain ⟨rfl, -⟩ := List.append_inj' whole rfl
      exact .climb n
  | name before named =>
    obtain ⟨rfl, -⟩ := List.append_inj' whole rfl
    rw [List.dropLast_concat]
    exact before

end Denotes

/-- The folded parts of a path denote its location. -/
theorem denotes_parts {p : Path} (absolute : p.isAbsolute = true) (cwd : Location) :
    Denotes (parts p) (p.locationFrom cwd) := by
  obtain ⟨cs, components, inner⟩ := exists_components absolute
  rw [parts, partsBy, locationFrom, components]
  exact Denotes.root.foldl inner

/-! ## Walking along parts -/

/-- Where parts lead from a location. The root as a part stays where it is. -/
def walk (l : Location) (ps : List Text) : Location :=
  (ps.flatMap (Text.pieces '/')).foldl followPart l

theorem walk_append (l : Location) (ps qs : List Text) : walk l (ps ++ qs) = walk (walk l ps) qs := by
  rw [walk, List.flatMap_append, List.foldl_append, walk, walk]

theorem walk_up (l : Location) (ps : List Text) : walk l (['.', '.'] :: ps) = walk l.dropLast ps := rfl

theorem walk_name {t : Text} (named : IsName t) (l : Location) : walk l [t] = l ++ [t] := by
  rw [walk, List.flatMap_singleton, Text.pieces_of_free named.free]
  exact followPart_of_name named.name named.down

/-- From the root, folded parts lead to the location that they denote. -/
theorem Denotes.walk (denotes : Denotes ps l) : walk [] ps = l := by
  induction denotes with
  | root => rfl
  | climb n =>
    induction n with
    | zero => rfl
    | succ n ih => rwa [List.replicate_succ, walk_up]
  | name before named ih => rw [walk_append, ih, walk_name named]

/-- Going up as many steps as there are parts leads to what the parts before them denote. -/
theorem Denotes.climbs (denotes : Denotes (ps ++ qs) l) :
    Denotes ps (Specifier.walk l (List.replicate qs.length ['.', '.'])) := by
  induction qs using List.reverseRecOn generalizing l with
  | nil => rwa [List.append_nil] at denotes
  | append_singleton qs t ih =>
    rw [← List.append_assoc] at denotes
    rw [List.length_append, List.length_singleton, List.replicate_succ, walk_up]
    exact ih denotes.up

/-- A route goes up to the last place that both paths share, from where they part. -/
theorem exists_route (ps qs : List Text) :
    ∃ common ps' qs', ps = common ++ ps' ∧ qs = common ++ qs' ∧ (∀ t ∈ ps'.head?, t ∉ qs'.head?) ∧
      route ps qs = List.replicate ps'.length ['.', '.'] ++ qs' := by
  fun_induction commonLength ps qs with
  | case1 ps t qs ih =>
    obtain ⟨common, ps', qs', first, second, apart, way⟩ := ih
    refine ⟨t :: common, ps', qs', by rw [first]; rfl, by rw [second]; rfl, apart, ?_⟩
    simpa [route, commonLength] using way
  | case2 p ps q qs differs =>
    exact ⟨[], p :: ps, q :: qs, rfl, rfl, by simpa using Ne.symm differs, by simp [route, commonLength, differs]⟩
  | case3 ps qs ended =>
    refine ⟨[], ps, qs, rfl, rfl, ?_⟩
    cases ps with
    | nil => exact ⟨by simp, by simp [route, commonLength]⟩
    | cons p ps =>
      cases qs with
      | nil => exact ⟨by simp, by simp [route, commonLength]⟩
      | cons q qs => exact (ended p ps q qs rfl rfl).elim

/-- A route leads from one location to the other. -/
theorem walk_route (source : Denotes ps l) (target : Denotes qs m) : walk l (route ps qs) = m := by
  obtain ⟨common, ps', qs', rfl, rfl, -, way⟩ := exists_route ps qs
  rw [way, walk_append, ← source.climbs.walk, ← walk_append, target.walk]

/-! ## The text of a specifier -/

theorem foldl_pieces_join (l : Location) (ps : List Text) :
    (Text.pieces '/' (Text.join ['/'] ps)).foldl followPart l = walk l ps := by
  cases ps with
  | nil => rfl
  | cons p ps => rw [Text.pieces_join (by simp), walk]

theorem spell_eq (way : List Text) :
    let joined := Text.join ['/'] way
    spell way = joined ∧ ['.', '.'] <+: joined ∨ spell way = '.' :: '/' :: joined ∧ ¬['.', '.'] <+: joined := by
  intro joined
  rw [spell]
  split
  · rename_i up
    exact .inl ⟨rfl, List.isPrefixOf_iff_prefix.mp up⟩
  · rename_i down
    exact .inr ⟨rfl, fun up => down (List.isPrefixOf_iff_prefix.mpr up)⟩

/-- The text of a way leads where the way leads. -/
theorem locationFrom_spell (way : List Text) (l : Location) : locationFrom l ⟨spell way⟩ = walk l way := by
  rw [← foldl_pieces_join]
  obtain ⟨text, rest, up⟩ | ⟨text, -⟩ := spell_eq way
  · rw [locationFrom_of_relative (by simp [isAbsolute, text, ← up]), Path.parts, text]
  · rw [locationFrom_of_relative (by simp [isAbsolute, text]), Path.parts, text]
    rfl

/-- A specifier leads from its directory to its target without the extension. -/
theorem locationFrom_join_spell {dir target : Path} (start : dir.isAbsolute = true)
    (absolute : target.isAbsolute = true) (cwd : Location) :
    (dir.join ⟨spell (route (parts dir) (parts target))⟩).locationFrom cwd = target.locationFrom cwd := by
  rw [Path.locationFrom_join, locationFrom_spell]
  exact walk_route (denotes_parts start cwd) (denotes_parts absolute cwd)

end Cleave.Specifier
