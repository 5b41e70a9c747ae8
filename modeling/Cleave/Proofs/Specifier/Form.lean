import Cleave.Proofs.Specifier.Route

/-!
# The form of specifiers

A specifier is read segment by segment. Its first segment marks it as relative unless the first name on its way down
starts with two dots, and its last segment is the name of the file unless the way does not go down at all. Both
conditions are exact (`relative_form_iff`).
-/

namespace Cleave.Specifier

open Cleave.Path

variable {ps : List Text} {l : Location} {dir target : Path}

/-- What starts with two dots among folded parts is `..` or a name. -/
theorem Denotes.free (denotes : Denotes ps l) {t : Text} (member : t ∈ ps) (dots : ['.', '.'] <+: t) : '/' ∉ t := by
  induction denotes with
  | root =>
    obtain rfl := List.mem_singleton.mp member
    simp [List.cons_prefix_cons] at dots
  | climb n =>
    obtain rfl := List.eq_of_mem_replicate member
    decide
  | name before named ih =>
    rcases List.mem_append.mp member with earlier | last
    · exact ih earlier
    · obtain rfl := List.mem_singleton.mp last
      exact named.free

/-- The folded parts of a path end with its file name. -/
theorem getLast?_parts {p : Path} {t : Text} (named : p.fileName? = some t) : (parts p).getLast? = some t := by
  obtain ⟨cs, components⟩ := List.getLast?_eq_some_iff.mp (getLast?_components named)
  rw [parts, partsBy, components, List.foldl_append, List.foldl_cons, List.foldl_nil, fold, List.getLast?_concat, id]

theorem dots_join_iff (t : Text) (ts : List Text) : ['.', '.'] <+: Text.join ['/'] (t :: ts) ↔ ['.', '.'] <+: t := by
  cases ts with
  | nil => rfl
  | cons u us =>
    rw [Text.join_cons_cons]
    match t with
    | [] => simp [List.cons_prefix_cons]
    | [c] => simp [List.cons_prefix_cons]
    | c :: d :: r => simp [List.cons_prefix_cons]

theorem pieces_marked (t : Text) : Text.pieces '/' ('.' :: '/' :: t) = ['.'] :: Text.pieces '/' t :=
  Text.pieces_append_sep '/' ['.'] t

/-- The mark of a specifier does not change how it ends. -/
theorem getLast?_relative (dir target : Path) :
    (Text.pieces '/' (relative dir target)).getLast? =
      (Text.pieces '/' (Text.join ['/'] (route (parts dir) (parts target.withoutExtension)))).getLast? := by
  obtain ⟨text, -⟩ | ⟨text, -⟩ := spell_eq (route (parts dir) (parts target.withoutExtension))
  · rw [relative, text]
  · rw [relative, text, pieces_marked, List.getLast?_cons, List.getLast?_eq_some_getLast (Text.pieces_ne_nil _ _),
      Option.getD_some]

theorem getLast?_flatMap_pieces {ts : List Text} {t : Text} (last : ts.getLast? = some t) (free : '/' ∉ t) :
    (ts.flatMap (Text.pieces '/')).getLast? = some t := by
  obtain ⟨init, rfl⟩ := List.getLast?_eq_some_iff.mp last
  rw [List.flatMap_append, List.flatMap_singleton, Text.pieces_of_free free, List.getLast?_concat]

theorem head?_relative_of_dots {t : Text} {ts : List Text}
    (way : route (parts dir) (parts target.withoutExtension) = t :: ts) (dots : ['.', '.'] <+: t) (free : '/' ∉ t) :
    (Text.pieces '/' (relative dir target)).head? = some t := by
  have text := spell_eq (route (parts dir) (parts target.withoutExtension))
  rw [way] at text
  obtain ⟨text, -⟩ | ⟨-, plain⟩ := text
  · rw [relative, way, text, Text.pieces_join (by simp), List.flatMap_cons, Text.pieces_of_free free]
    rfl
  · exact absurd ((dots_join_iff t ts).mpr dots) plain

theorem head?_relative_of_plain
    (plain : ∀ t ∈ (route (parts dir) (parts target.withoutExtension)).head?, ¬['.', '.'] <+: t) :
    (Text.pieces '/' (relative dir target)).head? = some ['.'] := by
  obtain ⟨-, dots⟩ | ⟨text, -⟩ := spell_eq (route (parts dir) (parts target.withoutExtension))
  · cases way : route (parts dir) (parts target.withoutExtension) with
    | nil =>
      rw [way] at dots
      cases List.prefix_nil.mp dots
    | cons t ts =>
      rw [way] at dots plain
      exact absurd ((dots_join_iff t ts).mp dots) (plain t rfl)
  · rw [relative, text, pieces_marked, List.head?_cons]

/-- Where two lists part, one goes on after the other only if the other has ended. -/
theorem append_eq_append_cons_iff {common ps qs : List Text} (apart : ∀ t ∈ ps.head?, t ∉ qs.head?) {t : Text}
    {ts : List Text} : common ++ qs = common ++ ps ++ t :: ts ↔ ps = [] ∧ qs = t :: ts := by
  rw [List.append_assoc, List.append_cancel_left_eq]
  cases ps with
  | nil => simp
  | cons p ps =>
    have other : qs ≠ p :: (ps ++ t :: ts) := fun same => apart p rfl (by rw [same]; rfl)
    simp [other]

theorem append_prefix_append_iff {common ps qs : List Text} (apart : ∀ t ∈ ps.head?, t ∉ qs.head?) :
    common ++ qs <+: common ++ ps ↔ qs = [] := by
  rw [List.prefix_append_right_inj]
  refine ⟨fun start => ?_, fun none => none ▸ List.nil_prefix⟩
  cases qs with
  | nil => rfl
  | cons q qs =>
    obtain ⟨rest, rfl⟩ := start
    exact absurd rfl (apart q rfl)

/-- The first segment of a specifier marks it as relative unless it is a name that starts like `..`. -/
theorem head?_relative_iff (absolute : target.isAbsolute = true) :
    (Text.pieces '/' (relative dir target)).head? = some ['.'] ∨
        (Text.pieces '/' (relative dir target)).head? = some ['.', '.'] ↔
      ¬∃ name rest, parts target.withoutExtension = parts dir ++ name :: rest ∧ ['.', '.'] <+: name ∧
        name ≠ ['.', '.'] := by
  have denotes := denotes_parts (isAbsolute_withoutExtension absolute) []
  obtain ⟨common, ps, qs, source, module, apart, way⟩ := exists_route (parts dir) (parts target.withoutExtension)
  rw [module] at denotes
  simp only [source, module, append_eq_append_cons_iff apart]
  cases ps with
  | cons p ps =>
    have first := head?_relative_of_dots way List.prefix_rfl (by decide)
    simp [first]
  | nil =>
    by_cases dots : ∃ t ∈ qs.head?, ['.', '.'] <+: t
    · obtain ⟨q, head, dots⟩ := dots
      obtain ⟨rest, rfl⟩ := List.head?_eq_some_iff.mp head
      have first := head?_relative_of_dots way dots (denotes.free (by simp) dots)
      have long : q ≠ ['.'] := fun single => by simp [single] at dots
      simp [first, long, dots]
    · have first : (Text.pieces '/' (relative dir target)).head? = some ['.'] :=
        head?_relative_of_plain fun t head start => dots ⟨t, by simpa [way] using head, start⟩
      refine iff_of_true (.inl first) ?_
      rintro ⟨name, rest, ⟨-, rfl⟩, start, -⟩
      exact dots ⟨name, rfl, start⟩

/-- The last segment of a specifier is the name of its file unless it leads to the directory itself or above. -/
theorem getLast?_relative_iff (dir target : Path) :
    (Text.pieces '/' (relative dir target)).getLast? = target.withoutExtension.fileName? ↔
      target.withoutExtension.fileName? ≠ none ∧ ¬parts target.withoutExtension <+: parts dir := by
  obtain ⟨common, ps, qs, source, module, apart, way⟩ := exists_route (parts dir) (parts target.withoutExtension)
  rw [getLast?_relative, way, source, module, append_prefix_append_iff apart]
  cases named : target.withoutExtension.fileName? with
  | none => simp [Text.pieces_ne_nil]
  | some t =>
    obtain ⟨-, -, -, name, -⟩ := fileName?_eq_some_iff.mp named
    have last := getLast?_parts named
    rw [module] at last
    cases qs using List.reverseRecOn with
    | nil =>
      refine iff_of_false (fun same => ?_) (by simp)
      rw [List.append_nil] at same
      cases ps with
      | nil =>
        cases same
        cases name.name
      | cons p ps =>
        have up : (List.replicate (p :: ps).length ['.', '.']).getLast? = some ['.', '.'] := by
          simp [List.getLast?_replicate]
        rw [Text.pieces_join (by simp), getLast?_flatMap_pieces up (by decide)] at same
        exact absurd (Option.some.inj same).symm name.down
    | append_singleton qs q =>
      rw [← List.append_assoc, List.getLast?_concat, Option.some.injEq] at last
      subst last
      rw [Text.pieces_join (by simp), getLast?_flatMap_pieces (by simp) name.free]
      simp

/-- When a specifier is marked as relative, and when it ends with the name of its file. -/
theorem relative_form_iff (dir target : Path) (absolute : target.isAbsolute = true) :
    let segments := Text.pieces '/' (relative dir target)
    (segments.head? = some ['.'] ∨ segments.head? = some ['.', '.'] ↔
      ¬∃ name rest, parts target.withoutExtension = parts dir ++ name :: rest ∧ ['.', '.'] <+: name ∧
        name ≠ ['.', '.']) ∧
    (segments.getLast? = target.withoutExtension.fileName? ↔
      target.withoutExtension.fileName? ≠ none ∧ ¬parts target.withoutExtension <+: parts dir) :=
  ⟨head?_relative_iff absolute, getLast?_relative_iff dir target⟩

theorem relative_form_iff_sample :
    let segments := Text.pieces '/' (relative ⟨"/p/src".toList⟩ ⟨"/p/gen/task.ts".toList⟩)
    (segments.head? = some ['.'] ∨ segments.head? = some ['.', '.']) ∧ segments.getLast? = some "task".toList := by
  obtain ⟨first, last⟩ := relative_form_iff ⟨"/p/src".toList⟩ ⟨"/p/gen/task.ts".toList⟩ rfl
  have source : parts ⟨"/p/src".toList⟩ = [['/'], ['p'], "src".toList] := by decide +kernel
  have module : parts (withoutExtension ⟨"/p/gen/task.ts".toList⟩) = [['/'], ['p'], "gen".toList, "task".toList] := by
    decide +kernel
  have name : (withoutExtension ⟨"/p/gen/task.ts".toList⟩).fileName? = some "task".toList := by decide +kernel
  rw [source, module, name] at last
  rw [source, module] at first
  exact ⟨first.mpr (by simp), last.mpr ⟨by simp, by decide⟩⟩

/-- A directory whose name starts with two dots is taken for a way up. A target that is the directory itself or lies
above it is left without its name. -/
theorem malformed_specifiers :
    Text.pieces '/' (relative ⟨"/p".toList⟩ ⟨"/p/..gen/task.ts".toList⟩) = ["..gen".toList, "task".toList] ∧
      Text.pieces '/' (relative ⟨"/p/server".toList⟩ ⟨"/p/server.ts".toList⟩) = [['.'], []] ∧
      Text.pieces '/' (relative ⟨"/p/server/db".toList⟩ ⟨"/p/server.ts".toList⟩) = [['.', '.']] ∧
      (withoutExtension ⟨"/p/server.ts".toList⟩).fileName? = some "server".toList := by
  decide +kernel

end Cleave.Specifier
