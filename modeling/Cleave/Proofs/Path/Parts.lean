import Mathlib.Data.List.Induction
import Cleave.Proofs.Disk.Location
import Cleave.Proofs.Text.Lines

/-!
# Paths and their parts

Pieces of a text that are joined again are cut at the same places. So a path below another leads where its parts lead
from the other (`locationFrom_join`), a path that is taken below the current directory leads where it leads from there
(`locationFrom_below`), and the parent of a path that ends with a name leads one step less far
(`locationFrom_parent?`). The file name of a path is its last part that does not stay (`fileName?_eq_some_iff`).
-/

namespace Cleave

namespace Text

variable {sep : Char} {t u : Text}

/-- A separator keeps what stands before it apart from what stands after it. -/
theorem pieces_append_sep (sep : Char) (t u : Text) : pieces sep (t ++ sep :: u) = pieces sep t ++ pieces sep u := by
  induction t with
  | nil => simp [pieces]
  | cons c r ih =>
    rw [List.cons_append, pieces, pieces, ih]
    split
    · rfl
    · cases cut : pieces sep r with
      | nil => exact absurd cut (pieces_ne_nil sep r)
      | cons p ps => rfl

theorem notMem_of_mem_pieces {p : Text} (member : p ∈ pieces sep t) : sep ∉ p := by
  induction t generalizing p with
  | nil =>
    rw [pieces, List.mem_singleton] at member
    simp [member]
  | cons c r ih =>
    rw [pieces] at member
    split at member
    · rcases List.mem_cons.mp member with rfl | later
      · simp
      · exact ih later
    · rename_i other
      cases cut : pieces sep r with
      | nil => exact absurd cut (pieces_ne_nil sep r)
      | cons q qs =>
        rw [cut] at ih member
        rcases List.mem_cons.mp member with rfl | later
        · simpa [ih List.mem_cons_self] using fun same => other same.symm
        · exact ih (List.mem_cons_of_mem q later)

theorem pieces_join {ts : List Text} (some : ts ≠ []) : pieces sep (join [sep] ts) = ts.flatMap (pieces sep) := by
  induction ts with
  | nil => exact absurd rfl some
  | cons t ts ih =>
    cases ts with
    | nil => simp [join]
    | cons u us =>
      rw [join_cons_cons, pieces_append_sep, ih (by simp)]
      rfl

/-- Parts that end with a separator each, followed by characters that are none. -/
theorem pieces_flatMap {ts : List Text} (each : ∀ p ∈ ts, sep ∉ p) (free : sep ∉ u) :
    pieces sep ((ts.flatMap (· ++ [sep])) ++ u) = ts ++ [u] := by
  induction ts with
  | nil => exact pieces_of_free free
  | cons p ts ih =>
    obtain ⟨first, rest⟩ := List.forall_mem_cons.mp each
    rw [List.flatMap_cons, List.append_assoc, List.append_assoc, List.singleton_append, pieces_append_sep, ih rest,
      pieces_of_free first]
    rfl

theorem join_pieces (sep : Char) (t : Text) : join [sep] (pieces sep t) = t := by
  induction t with
  | nil => rfl
  | cons c r ih =>
    rw [pieces]
    cases cut : pieces sep r with
    | nil => exact absurd cut (pieces_ne_nil sep r)
    | cons p ps =>
      rw [cut] at ih
      split
      · rename_i same
        rw [join_cons_cons, ih, same, List.nil_append]
      · cases ps with
        | nil => exact congrArg (c :: ·) ih
        | cons q qs =>
          rw [join_cons_cons] at ih ⊢
          rw [List.cons_append, ih]

/-- A text up to the end of one of its pieces. -/
theorem exists_of_pieces {front back : List Text} {p : Text} (cut : pieces sep t = front ++ p :: back) :
    ∃ rest, t = front.flatMap (· ++ [sep]) ++ p ++ rest := by
  rw [← join_pieces sep t, cut]
  clear cut
  induction front with
  | nil =>
    cases back with
    | nil => exact ⟨[], by simp [join]⟩
    | cons q qs => exact ⟨sep :: join [sep] (q :: qs), by simp [join_cons_cons]⟩
  | cons u us ih =>
    obtain ⟨rest, whole⟩ := ih
    obtain ⟨q, qs, more⟩ := List.exists_cons_of_ne_nil (show us ++ p :: back ≠ [] by simp)
    refine ⟨rest, ?_⟩
    rw [List.cons_append, more, join_cons_cons, ← more, whole]
    simp

end Text

/-- A text that is the name of one place below another. -/
structure Path.IsName (t : Text) : Prop where
  name : Disk.isStay t = false
  down : t ≠ ['.', '.']
  free : '/' ∉ t

/-- A component below the root that is `.`, `..` or a proper name. -/
def Component.IsInner : Component → Prop
  | root => False
  | name t => Path.IsName t
  | _ => True

namespace Path

variable {cwd : Location} {p q : Path}

/-- Names lead down one by one. -/
theorem foldl_followPart_of_names {ts : List Text} (names : ∀ t ∈ ts, IsName t) (l : Location) :
    ts.foldl followPart l = l ++ ts := by
  induction ts generalizing l with
  | nil => simp
  | cons t ts ih =>
    obtain ⟨first, rest⟩ := List.forall_mem_cons.mp names
    rw [List.foldl_cons, followPart_of_name first.name first.down, ih rest, List.append_assoc, List.singleton_append]

theorem foldl_followPart_of_stay {ts : List Text} (stay : ∀ t ∈ ts, Disk.isStay t = true) (l : Location) :
    ts.foldl followPart l = l := by
  induction ts with
  | nil => rfl
  | cons t ts ih =>
    obtain ⟨first, rest⟩ := List.forall_mem_cons.mp stay
    rw [List.foldl_cons, followPart_of_stay first, ih rest]

theorem locationFrom_of_absolute (absolute : p.isAbsolute = true) (cwd : Location) :
    p.locationFrom cwd = p.parts.foldl followPart [] := by
  rw [locationFrom_eq, Disk.startOf, if_pos absolute]

theorem locationFrom_of_relative (relative : p.isAbsolute = false) (cwd : Location) :
    p.locationFrom cwd = p.parts.foldl followPart cwd := by
  rw [locationFrom_eq, Disk.startOf, if_neg (by simp [relative])]

theorem startOf_congr (same : p.text.head? = q.text.head?) (cwd : Location) :
    Disk.startOf cwd p = Disk.startOf cwd q := by
  rw [Disk.startOf, Disk.startOf, isAbsolute, isAbsolute, same]

/-- A relative path is added after a slash, unless there is nothing before it. -/
theorem join_cases (p : Path) (relative : q.isAbsolute = false) :
    p.text = [] ∧ p.join q = q ∨
      ∃ t, (p.join q).text = t ++ '/' :: q.text ∧ (p.text = t ∧ t ≠ [] ∨ p.text = t ++ ['/']) := by
  rw [join, if_neg (by simp [relative])]
  rcases List.eq_nil_or_concat p.text with empty | ⟨t, c, text⟩
  · exact .inl ⟨empty, by simp [empty]⟩
  · rw [List.concat_eq_append] at text
    refine .inr ?_
    by_cases slash : c = '/'
    · exact ⟨t, by simp [text, slash], .inr (by rw [text, slash])⟩
    · exact ⟨p.text, by simp [text, slash], .inl ⟨rfl, by simp [text]⟩⟩

/-- A path below another leads where it leads from there. -/
theorem locationFrom_join (cwd : Location) (p q : Path) :
    (p.join q).locationFrom cwd = q.locationFrom (p.locationFrom cwd) := by
  cases absolute : q.isAbsolute with
  | true => rw [join, if_pos absolute, locationFrom_of_absolute absolute, locationFrom_of_absolute absolute]
  | false =>
    rw [locationFrom_of_relative absolute (p.locationFrom cwd)]
    obtain ⟨empty, same⟩ | ⟨t, text, ⟨rfl, filled⟩ | slash⟩ := join_cases p absolute
    · have here : p.locationFrom cwd = cwd := by
        simp [locationFrom_eq, parts, empty, Disk.startOf, isAbsolute, Text.pieces, followPart, Disk.isStay]
      rw [here, same, locationFrom_of_relative absolute]
    · have start : Disk.startOf cwd (p.join q) = Disk.startOf cwd p :=
        startOf_congr (by simp [text, List.head?_append, List.head?_eq_some_head filled]) cwd
      rw [locationFrom_eq, start, parts, text, Text.pieces_append_sep, List.foldl_append, locationFrom_eq cwd p]
      rfl
    · have start : Disk.startOf cwd (p.join q) = Disk.startOf cwd p :=
        startOf_congr (by cases t <;> simp [text, slash]) cwd
      rw [locationFrom_eq, start, parts, text, Text.pieces_append_sep, List.foldl_append, locationFrom_eq cwd p,
        parts, slash, Text.pieces_append_sep, List.foldl_append]
      rfl

theorem isAbsolute_iff : p.isAbsolute = true ↔ p.text.head? = some '/' := by
  simp [isAbsolute]

theorem isAbsolute_join (absolute : p.isAbsolute = true) (q : Path) : (p.join q).isAbsolute = true := by
  rw [isAbsolute_iff] at absolute
  have filled : ∀ t, (p.text ++ t).head? = some '/' := fun t => by simp [List.head?_append, absolute]
  rw [join]
  split
  · assumption
  · split
    · exact isAbsolute_iff.mpr (filled _)
    · exact isAbsolute_iff.mpr (filled _)

theorem isAbsolute_below (cwd : Location) (p : Path) : (p.below cwd).isAbsolute = true := by
  rw [below]
  split
  · assumption
  · exact isAbsolute_join rfl p

theorem locationFrom_ofLocation (names : ∀ n ∈ cwd, IsName n) (l : Location) :
    (ofLocation cwd).locationFrom l = cwd := by
  have parts : (ofLocation cwd).parts = [] :: Text.pieces '/' (Text.join ['/'] cwd) := rfl
  rw [locationFrom_of_absolute rfl, parts, List.foldl_cons, followPart_of_stay rfl]
  cases cwd with
  | nil => rfl
  | cons n ns =>
    have single : (n :: ns).flatMap (Text.pieces '/') = n :: ns := by
      rw [List.flatMap_def, List.map_congr_left fun t member => Text.pieces_of_free (names t member).free,
        ← List.flatMap_def, List.flatMap_singleton']
    rw [Text.pieces_join (by simp), single, foldl_followPart_of_names names, List.nil_append]

/-- A path below the current directory leads where it leads from there. -/
theorem locationFrom_below (names : ∀ n ∈ cwd, IsName n) (l : Location) (p : Path) :
    (p.below cwd).locationFrom l = p.locationFrom cwd := by
  rw [below]
  split
  · rename_i absolute
    rw [locationFrom_of_absolute absolute, locationFrom_of_absolute absolute]
  · rw [locationFrom_join, locationFrom_ofLocation names]

theorem exists_parts_join (p : Path) (relative : q.isAbsolute = false) :
    ∃ front, (p.join q).parts = front ++ q.parts := by
  obtain ⟨-, same⟩ | ⟨t, text, -⟩ := join_cases p relative
  · exact ⟨[], by rw [same, List.nil_append]⟩
  · exact ⟨Text.pieces '/' t, by rw [parts, text, Text.pieces_append_sep, parts]⟩

theorem exists_parts_below (cwd : Location) (p : Path) : ∃ front, (p.below cwd).parts = front ++ p.parts := by
  rw [below]
  split
  · exact ⟨[], rfl⟩
  · rename_i relative
    exact exists_parts_join _ (by simpa using relative)

/-! ## Components -/

theorem locate?_eq_some {start : Nat} {part : Text} {x : Located} (found : locate? start part = some x) :
    x.stop = start + part.length ∧ part ≠ [] ∧
      (x.component = .here ∨ x.component = .up ∨
        x.component = .name part ∧ Disk.isStay part = false ∧ part ≠ ['.', '.']) := by
  rw [locate?] at found
  split at found
  · cases found
  · rename_i filled
    split at found
    · split at found
      · cases found
        exact ⟨rfl, filled, .inl rfl⟩
      · cases found
    · rename_i dot
      split at found
      · cases found
        exact ⟨rfl, filled, .inr (.inl rfl)⟩
      · rename_i down
        cases found
        exact ⟨rfl, filled, .inr (.inr ⟨rfl, by simp [Disk.isStay, filled, dot], down⟩)⟩

theorem locate?_of_isName {t : Text} (name : IsName t) (start : Nat) :
    locate? start t = some ⟨.name t, start, start + t.length⟩ := by
  have proper := name.name
  simp only [Disk.isStay, Bool.or_eq_false_iff, decide_eq_false_iff_not] at proper
  simp [locate?, proper, name.down]

theorem exists_of_mem_locateFrom {start : Nat} {ps : List Text} {x : Located} (member : x ∈ locateFrom start ps) :
    ∃ start' part, part ∈ ps ∧ locate? start' part = some x := by
  induction ps generalizing start with
  | nil => cases member
  | cons part ps ih =>
    rcases List.mem_append.mp member with here | later
    · exact ⟨start, part, List.mem_cons_self, Option.mem_toList.mp here⟩
    · obtain ⟨start', q, inside, found⟩ := ih later
      exact ⟨start', q, List.mem_cons_of_mem part inside, found⟩

theorem isInner_of_mem_locateFrom {start : Nat} {ps : List Text} (free : ∀ part ∈ ps, '/' ∉ part) {x : Located}
    (member : x ∈ locateFrom start ps) : x.component.IsInner := by
  obtain ⟨start', part, inside, found⟩ := exists_of_mem_locateFrom member
  obtain ⟨-, -, same | same | ⟨same, name, down⟩⟩ := locate?_eq_some found
  · rw [same]
    trivial
  · rw [same]
    trivial
  · rw [same]
    exact ⟨name, down, free part inside⟩

theorem located_of_absolute (absolute : p.isAbsolute = true) :
    p.located = ⟨.root, 0, 1⟩ :: locateFrom 0 p.parts := by
  rw [located, if_pos absolute]
  rfl

theorem exists_components (absolute : p.isAbsolute = true) :
    ∃ cs, p.components = .root :: cs ∧ ∀ c ∈ cs, c.IsInner := by
  refine ⟨(locateFrom 0 p.parts).map Located.component, ?_, fun c member => ?_⟩
  · rw [components, located_of_absolute absolute, List.map_cons]
  · obtain ⟨x, inside, rfl⟩ := List.mem_map.mp member
    exact isInner_of_mem_locateFrom (fun part => Text.notMem_of_mem_pieces) inside

theorem locate?_eq_none {start : Nat} {part : Text} (none : locate? start part = none) : Disk.isStay part = true := by
  rw [locate?] at none
  split at none
  · rename_i empty
    simp [Disk.isStay, empty]
  · split at none
    · rename_i dot
      simp [Disk.isStay, dot]
    · split at none <;> cases none

theorem locateFrom_append (start : Nat) (ps qs : List Text) :
    locateFrom start (ps ++ qs) = locateFrom start ps ++ locateFrom (start + (ps.flatMap (· ++ ['/'])).length) qs := by
  induction ps generalizing start with
  | nil => rfl
  | cons part ps ih =>
    rw [List.cons_append, locateFrom, ih, locateFrom, List.append_assoc]
    congr 3
    simp only [List.flatMap_cons, List.length_append, List.length_singleton]
    omega

theorem stay_of_locateFrom_eq_nil {start : Nat} {ps : List Text} (none : locateFrom start ps = []) :
    ∀ part ∈ ps, Disk.isStay part = true := by
  induction ps generalizing start with
  | nil => simp
  | cons part ps ih =>
    obtain ⟨first, rest⟩ := List.append_eq_nil_iff.mp none
    exact List.forall_mem_cons.mpr ⟨locate?_eq_none (Option.toList_eq_nil_iff.mp first), ih rest⟩

/-- Parts that stay are no components, unless a path starts with them. -/
theorem locateFrom_eq_nil {start : Nat} {ps : List Text} (stay : ∀ part ∈ ps, Disk.isStay part = true)
    (later : 0 < start) : locateFrom start ps = [] := by
  induction ps generalizing start with
  | nil => rfl
  | cons part ps ih =>
    obtain ⟨first, rest⟩ := List.forall_mem_cons.mp stay
    rw [locateFrom, ih rest (by omega), List.append_nil, Option.toList_eq_nil_iff]
    simp only [Disk.isStay, Bool.or_eq_true, decide_eq_true_eq] at first
    rcases first with rfl | rfl
    · rfl
    · simp [locate?, Nat.ne_of_gt later]

/-- Where a component comes from: the parts before it hold the components before it. -/
theorem exists_of_locateFrom {start : Nat} {ps : List Text} {before after : List Located} {x : Located}
    (cut : locateFrom start ps = before ++ x :: after) :
    ∃ front part back, ps = front ++ part :: back ∧ locateFrom start front = before ∧
      locate? (start + (front.flatMap (· ++ ['/'])).length) part = some x ∧
      ∃ start', locateFrom start' back = after := by
  induction ps generalizing start before with
  | nil => simp [locateFrom] at cut
  | cons part ps ih =>
    rw [locateFrom] at cut
    have later {before' : List Located}
        (rest : locateFrom (start + part.length + 1) ps = before' ++ x :: after)
        (here : (locate? start part).toList ++ before' = before) :
        ∃ front q back, part :: ps = front ++ q :: back ∧ locateFrom start front = before ∧
          locate? (start + (front.flatMap (· ++ ['/'])).length) q = some x ∧
          ∃ start', locateFrom start' back = after := by
      obtain ⟨front, q, back, rfl, first, found, tail⟩ := ih rest
      refine ⟨part :: front, q, back, rfl, by rw [locateFrom, first, here], ?_, tail⟩
      rw [← found]
      congr 1
      simp only [List.flatMap_cons, List.length_append, List.length_singleton]
      omega
    cases found : locate? start part with
    | none =>
      rw [found] at cut
      exact later cut (by simp [found])
    | some y =>
      rw [found] at cut
      cases before with
      | nil =>
        obtain ⟨rfl, rest⟩ := List.cons_eq_cons.mp cut
        exact ⟨[], part, ps, rfl, rfl, by simpa using found, _, rest⟩
      | cons z zs =>
        obtain ⟨rfl, rest⟩ := List.cons_eq_cons.mp cut
        exact later rest (by simp [found])

/-! ## Parents -/

theorem isAbsolute_take (absolute : p.isAbsolute = true) {n : Nat} (some : 0 < n) :
    isAbsolute ⟨p.text.take n⟩ = true := by
  rw [isAbsolute_iff] at absolute ⊢
  rw [List.head?_take, if_neg (by omega), absolute]

theorem stop_pos (absolute : p.isAbsolute = true) {x : Located} (member : x ∈ p.located) : 0 < x.stop := by
  rw [located_of_absolute absolute] at member
  rcases List.mem_cons.mp member with rfl | below
  · exact Nat.one_pos
  · obtain ⟨start, part, -, found⟩ := exists_of_mem_locateFrom below
    obtain ⟨stop, filled, -⟩ := locate?_eq_some found
    have long := List.length_pos_iff.mpr filled
    omega

theorem getLast?_components {t : Text} (named : p.fileName? = some t) : p.components.getLast? = some (.name t) := by
  rw [fileName?] at named
  split at named
  · rename_i u found
    rwa [Option.some.inj named] at found
  · cases named

theorem fileName?_eq_some {t : Text} (named : p.fileName? = some t) :
    ∃ before x, locateFrom 0 p.parts = before ++ [x] ∧ x.component = .name t := by
  have last := getLast?_components named
  rw [components, located, List.map_append] at last
  obtain none | ⟨before, x, cut⟩ := List.eq_nil_or_concat (locateFrom 0 p.parts)
  · rw [show locateFrom 0 (Text.pieces '/' p.text) = [] from none] at last
    cases absolute : p.isAbsolute <;> simp [absolute] at last
  · rw [List.concat_eq_append] at cut
    refine ⟨before, x, cut, ?_⟩
    rw [show locateFrom 0 (Text.pieces '/' p.text) = before ++ [x] from cut, List.map_append, ← List.append_assoc,
      List.map_singleton, List.getLast?_concat] at last
    exact Option.some.inj last

/-- The last part of a path that does not stay is its file name, unless it is `..`. -/
theorem fileName?_eq_some_iff {t : Text} :
    p.fileName? = some t ↔
      ∃ front back, p.parts = front ++ t :: back ∧ IsName t ∧ ∀ part ∈ back, Disk.isStay part = true := by
  constructor
  · intro named
    obtain ⟨before, x, cut, name⟩ := fileName?_eq_some named
    obtain ⟨front, part, back, whole, -, found, start, none⟩ := exists_of_locateFrom cut
    obtain ⟨-, -, same | same | ⟨same, stays, down⟩⟩ := locate?_eq_some found
    · cases name.symm.trans same
    · cases name.symm.trans same
    · cases name.symm.trans same
      have free : '/' ∉ t := Text.notMem_of_mem_pieces (show t ∈ p.parts by simp [whole])
      exact ⟨front, back, whole, ⟨stays, down, free⟩, stay_of_locateFrom_eq_nil none⟩
  · rintro ⟨front, back, whole, named, stay⟩
    rw [fileName?, components, located, show Text.pieces '/' p.text = front ++ t :: back from whole, locateFrom_append,
      locateFrom, locate?_of_isName named, locateFrom_eq_nil stay (by omega)]
    simp

theorem parts_of_isName (name : IsName p.text) : p.parts = [p.text] :=
  Text.pieces_of_free name.free

theorem isAbsolute_of_isName (name : IsName p.text) : p.isAbsolute = false := by
  cases absolute : p.isAbsolute with
  | false => rfl
  | true => exact absurd (List.mem_of_mem_head? (isAbsolute_iff.mp absolute)) name.free

/-- A path that is a name has no other components, and only such a path is its own single component. -/
theorem components_eq_singleton_iff : p.components = [.name p.text] ↔ IsName p.text := by
  constructor
  · intro single
    have named : p.fileName? = some p.text := by rw [fileName?, single]; rfl
    obtain ⟨-, -, -, name, -⟩ := fileName?_eq_some_iff.mp named
    exact name
  · intro name
    rw [components, located, isAbsolute_of_isName name, ← parts, parts_of_isName name, locateFrom,
      locate?_of_isName name]
    rfl

theorem locationFrom_join_of_isName (name : IsName q.text) (cwd : Location) (p : Path) :
    (p.join q).locationFrom cwd = p.locationFrom cwd ++ [q.text] := by
  rw [locationFrom_join, locationFrom_of_relative (isAbsolute_of_isName name), parts_of_isName name]
  exact followPart_of_name name.name name.down

theorem fileName?_below {t : Text} (named : p.fileName? = some t) (cwd : Location) :
    (p.below cwd).fileName? = some t := by
  obtain ⟨front, back, whole, name, stay⟩ := fileName?_eq_some_iff.mp named
  obtain ⟨first, parts⟩ := exists_parts_below cwd p
  exact fileName?_eq_some_iff.mpr ⟨first ++ front, back, by rw [parts, whole, List.append_assoc], name, stay⟩

theorem parent?_eq_some (absolute : p.isAbsolute = true) {before : List Located} {x : Located}
    (cut : locateFrom 0 p.parts = before ++ [x]) :
    p.parent? = some ⟨p.text.take ((before.getLast?.map Located.stop).getD 1)⟩ := by
  have inner : x.component ≠ .root := by
    intro root
    have inner := isInner_of_mem_locateFrom (fun part => Text.notMem_of_mem_pieces)
      (show x ∈ locateFrom 0 p.parts by simp [cut])
    rwa [root] at inner
  rw [parent?, located_of_absolute absolute, cut]
  cases before using List.reverseRecOn with
  | nil => simp [inner]
  | append_singleton init y => simp [inner]

/-- An absolute path without a parent has nothing but the root. -/
theorem stay_of_parent?_eq_none (absolute : p.isAbsolute = true) (none : p.parent? = none) :
    ∀ part ∈ p.parts, Disk.isStay part = true := by
  obtain empty | ⟨before, x, cut⟩ := List.eq_nil_or_concat (locateFrom 0 p.parts)
  · exact stay_of_locateFrom_eq_nil empty
  · rw [List.concat_eq_append] at cut
    cases none.symm.trans (parent?_eq_some absolute cut)

theorem isAbsolute_parent? (absolute : p.isAbsolute = true) (found : p.parent? = some q) : q.isAbsolute = true := by
  obtain empty | ⟨before, x, cut⟩ := List.eq_nil_or_concat (locateFrom 0 p.parts)
  · simp [parent?, located_of_absolute absolute, empty] at found
  · rw [List.concat_eq_append] at cut
    obtain rfl := Option.some.inj ((parent?_eq_some absolute cut).symm.trans found)
    refine isAbsolute_take absolute ?_
    cases last : before.getLast? with
    | none => exact Nat.one_pos
    | some y =>
      have member : y ∈ p.located := by
        rw [located_of_absolute absolute, cut]
        exact List.mem_cons_of_mem _ (List.mem_append_left _ (List.mem_of_getLast? last))
      exact stop_pos absolute member

/-- The path up to the end of a component has the components up to there. -/
theorem locateFrom_take {before after : List Located} {x : Located}
    (cut : locateFrom 0 p.parts = before ++ x :: after) :
    locateFrom 0 (parts ⟨p.text.take x.stop⟩) = before ++ [x] := by
  obtain ⟨front, part, back, whole, first, found, -⟩ := exists_of_locateFrom cut
  obtain ⟨stop, -, -⟩ := locate?_eq_some found
  obtain ⟨rest, text⟩ := Text.exists_of_pieces whole
  have free : ∀ q ∈ front ++ part :: back, '/' ∉ q := fun q member => Text.notMem_of_mem_pieces (whole ▸ member)
  have taken : p.text.take x.stop = front.flatMap (· ++ ['/']) ++ part := by
    rw [text, stop, Nat.zero_add, ← List.length_append, List.take_left]
  have parts : parts ⟨p.text.take x.stop⟩ = front ++ [part] := by
    rw [Path.parts, taken]
    exact Text.pieces_flatMap (fun q member => free q (List.mem_append_left _ member)) (free part (by simp))
  rw [parts, locateFrom_append, first, locateFrom, found]
  rfl

/-- The path up to the end of a component leads where the components up to there lead. -/
theorem locationFrom_take (absolute : p.isAbsolute = true) {before after : List Located} {x : Located}
    (cut : locateFrom 0 p.parts = before ++ x :: after) :
    locationFrom cwd ⟨p.text.take x.stop⟩ = ((before ++ [x]).map Located.component).foldl follow [] := by
  have member : x ∈ p.located := by
    rw [located_of_absolute absolute, cut]
    simp
  rw [locationFrom_of_absolute (isAbsolute_take absolute (stop_pos absolute member)), ← foldl_follow_locateFrom 0,
    locateFrom_take cut]

/-- The parent of a path that ends with a name leads to where the path leads, less the name. -/
theorem locationFrom_parent? {t : Text} (absolute : p.isAbsolute = true) (named : p.fileName? = some t)
    (cwd : Location) : ∃ q, p.parent? = some q ∧ q.locationFrom cwd = (p.locationFrom cwd).dropLast := by
  obtain ⟨before, x, cut, name⟩ := fileName?_eq_some named
  refine ⟨_, parent?_eq_some absolute cut, ?_⟩
  have place : (p.locationFrom cwd).dropLast = (before.map Located.component).foldl follow [] := by
    rw [locationFrom_of_absolute absolute, ← foldl_follow_locateFrom 0, cut, List.map_append, List.foldl_append,
      List.map_singleton, name]
    exact List.dropLast_concat
  rw [place]
  cases before using List.reverseRecOn with
  | nil =>
    cases text : p.text with
    | nil => simp [isAbsolute, text] at absolute
    | cons c r =>
      obtain rfl : c = '/' := by simpa [isAbsolute, text] using absolute
      rfl
  | append_singleton init y =>
    rw [List.append_assoc, List.singleton_append] at cut
    rw [List.getLast?_concat]
    exact locationFrom_take absolute cut

/-! ## Extensions -/

theorem takeWhile_ne_of_free {t : Text} (free : '.' ∉ t) (u : Text) :
    (t ++ u).takeWhile (· != '.') = t ++ u.takeWhile (· != '.') := by
  refine List.takeWhile_append_of_pos fun c member => ?_
  have other : c ≠ '.' := fun same => free (same ▸ member)
  simpa using other

theorem splitName_of_free {t : Text} (free : '.' ∉ t) : splitName t = (t, none) := by
  have all := takeWhile_ne_of_free (List.mem_reverse.not.mpr free) []
  rw [List.append_nil] at all
  simp [splitName, all]

theorem splitName_append {before after : Text} (free : '.' ∉ after) :
    splitName (before ++ '.' :: after) =
      if before = [] then (before ++ '.' :: after, none) else (before, some after) := by
  have cut := takeWhile_ne_of_free (List.mem_reverse.not.mpr free) ('.' :: before.reverse)
  have long : before.length + (after.length + 1) - after.length - 1 = before.length := by omega
  have longer : after.length ≠ before.length + (after.length + 1) := by omega
  simp [splitName, cut, long, longer]

theorem prefix_splitName (t : Text) : (splitName t).1 <+: t := by
  rw [splitName]
  split
  · exact List.prefix_rfl
  · exact List.take_prefix _ _

/-- A path without its extension ends within its file name. -/
theorem withoutExtension_of_parts {front back : List Text} {t : Text} (cut : p.parts = front ++ t :: back)
    (named : IsName t) (stay : ∀ part ∈ back, Disk.isStay part = true) :
    p.withoutExtension = ⟨front.flatMap (· ++ ['/']) ++ (splitName t).1⟩ := by
  obtain ⟨rest, text⟩ := Text.exists_of_pieces cut
  obtain ⟨extension, name⟩ := prefix_splitName t
  have whole : p.text = (front.flatMap (· ++ ['/']) ++ (splitName t).1) ++ (extension ++ rest) := by
    rw [text, List.append_assoc, List.append_assoc, ← List.append_assoc (splitName t).1, name]
  have last : p.located.getLast? =
      some ⟨.name t, (front.flatMap (· ++ ['/'])).length, (front.flatMap (· ++ ['/'])).length + t.length⟩ := by
    rw [located, show Text.pieces '/' p.text = front ++ t :: back from cut, locateFrom_append,
      locateFrom, locate?_of_isName named, locateFrom_eq_nil stay (by omega)]
    simp
  rw [withoutExtension, last]
  dsimp only
  rw [whole, ← List.length_append, List.take_left]

theorem withoutExtension_of_nameless (none : p.fileName? = none) : p.withoutExtension = p := by
  rw [withoutExtension]
  split
  · rename_i t start stop last
    rw [fileName?, components, List.getLast?_map, last] at none
    cases none
  · rfl

theorem splitName_ne_nil {t : Text} (filled : t ≠ []) : (splitName t).1 ≠ [] := by
  rw [splitName]
  split
  · exact filled
  · rename_i cut
    rw [Bool.or_eq_true, not_or] at cut
    simpa using cut.2

theorem isAbsolute_withoutExtension (absolute : p.isAbsolute = true) : p.withoutExtension.isAbsolute = true := by
  rw [withoutExtension]
  split
  · rename_i t start stop last
    have member := List.mem_of_getLast? last
    rw [located_of_absolute absolute] at member
    rcases List.mem_cons.mp member with same | below
    · cases same
    · obtain ⟨start', part, -, found⟩ := exists_of_mem_locateFrom below
      obtain ⟨-, filled, same | same | ⟨same, -, -⟩⟩ := locate?_eq_some found
      · cases same
      · cases same
      · cases same
        have long := List.length_pos_iff.mpr (splitName_ne_nil filled)
        exact isAbsolute_take absolute (by omega)
  · exact absolute

end Path

end Cleave
