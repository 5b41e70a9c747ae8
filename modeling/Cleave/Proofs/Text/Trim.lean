import Mathlib.Data.List.TakeWhile
import Cleave.Proofs.Text.Substance

/-!
# Trimming

Trimming leaves the one text that neither begins nor ends with a character to drop, where nothing but such characters
is taken off (`isTrimOf_iff`). Where no line begins with a carriage return, trimming a text takes whole lines of
terminators off at both ends, and the terminator of the last line that is left (`Trimmed.trimOf_flatten`).
-/

namespace Cleave.Text

/-! ## What is left -/

/-- `t` is what is left of `s` when the longest runs at both ends whose characters satisfy `p` are taken off. -/
structure IsTrimOf (p : Char → Bool) (s t : Text) : Prop where
  cut : ∃ a b, s = a ++ t ++ b ∧ (∀ c ∈ a, p c = true) ∧ ∀ c ∈ b, p c = true
  front : ∀ c ∈ t.head?, p c = false
  back : ∀ c ∈ t.getLast?, p c = false

section IsTrimOf

variable {p : Char → Bool} {s t : Text}

theorem isTrimOf_self (kept : ∀ c ∈ t, p c = false) : IsTrimOf p t t where
  cut := ⟨[], [], by simp, by simp, by simp⟩
  front := fun c first => kept c (List.mem_of_head? first)
  back := fun c last => kept c (List.mem_of_getLast? last)

theorem head?_trimStartOf {c : Char} (first : c ∈ (trimStartOf p t).head?) : p c = false := by
  have stops := List.head?_dropWhile_not p t
  rw [trimStartOf, Option.mem_def] at first
  rwa [first] at stops

theorem getLast?_trimEndOf {c : Char} (last : c ∈ (trimEndOf p t).getLast?) : p c = false := by
  rw [trimEndOf, List.getLast?_reverse] at last
  exact head?_trimStartOf last

theorem isTrimOf_trimOf (p : Char → Bool) (s : Text) : IsTrimOf p s (trimOf p s) where
  cut := by
    refine trimOf_induction
      (motive := fun u => ∃ a b, s = a ++ u ++ b ∧ (∀ c ∈ a, p c = true) ∧ ∀ c ∈ b, p c = true)
      ?front ?back ⟨[], [], by simp, by simp, by simp⟩
    case front =>
      rintro c u drops ⟨a, b, cut, before, after⟩
      exact ⟨a ++ [c], b, by simp [cut], by simpa [or_imp, forall_and, drops] using before, after⟩
    case back =>
      rintro c u drops ⟨a, b, cut, before, after⟩
      exact ⟨a, c :: b, by simp [cut], before, List.forall_mem_cons.mpr ⟨drops, after⟩⟩
  front := by
    -- Trimming the end leaves the first character as it is, unless nothing is left at all.
    intro c first
    obtain ⟨v, whole⟩ := trimEndOf_leads p (trimStartOf p s)
    rw [trimOf, Option.mem_def] at first
    refine head?_trimStartOf (t := s) ?_
    rw [← whole, List.head?_append, first]
    rfl
  back := fun c last => getLast?_trimEndOf last

theorem trimOf_append {a b : Text} (before : ∀ c ∈ a, p c = true) (after : ∀ c ∈ b, p c = true) (t : Text) :
    trimOf p (a ++ t ++ b) = trimOf p t := by
  induction a with
  | nil =>
    rw [List.nil_append]
    induction b using List.reverseRecOn with
    | nil => rw [List.append_nil]
    | append_singleton b c ih =>
      rw [← List.append_assoc, trimOf_concat (after c (by simp)), ih fun d member => after d (by simp [member])]
  | cons c a ih =>
    obtain ⟨drops, before⟩ := List.forall_mem_cons.mp before
    rw [List.cons_append, List.cons_append, trimOf_cons drops, ih before]

/-- Trimming leaves what it is meant to leave, and nothing else fits. -/
theorem isTrimOf_iff : IsTrimOf p s t ↔ t = trimOf p s := by
  constructor
  · rintro ⟨⟨a, b, rfl, before, after⟩, front, back⟩
    rw [trimOf_append before after, trimOf, trimStartOf_of_front front, trimEndOf_of_back back]
  · rintro rfl
    exact isTrimOf_trimOf p s

end IsTrimOf

/-! ## Lines of terminators -/

/-- A text of line terminators only. -/
def IsBare (t : Text) : Prop :=
  ∀ c ∈ t, isTerminator c = true

instance (t : Text) : Decidable t.IsBare :=
  inferInstanceAs (Decidable (∀ c ∈ t, isTerminator c = true))

/-- A line that does not begin with a carriage return, unless it holds line terminators only. -/
def StartsClean (l : Text) : Prop :=
  l.head? = some '\r' → IsBare l

instance (l : Text) : Decidable l.StartsClean :=
  inferInstanceAs (Decidable (l.head? = some '\r' → IsBare l))

theorem startsClean_emptyLine : StartsClean ['\n'] := by
  simp [StartsClean]

theorem startsClean_of_free {l : Text} (free : '\r' ∉ l) : StartsClean l :=
  fun head => absurd (List.mem_of_head? head) free

theorem isBlankChar_of_terminator {c : Char} (terminator : isTerminator c = true) : isBlankChar c = true := by
  rcases terminator_cases terminator with rfl | rfl
  · rfl
  · rfl

theorem IsBare.flatten {ls : List Text} (bare : ∀ l ∈ ls, IsBare l) : IsBare ls.flatten := by
  intro c member
  obtain ⟨l, inside, here⟩ := List.mem_flatten.mp member
  exact bare l inside c here

theorem IsBare.isBlank {t : Text} (bare : IsBare t) : isBlank t = true := by
  rw [Text.isBlank, List.all_eq_true]
  exact fun c member => isBlankChar_of_terminator (bare c member)

/-- What is left after trimming is blank only if all was. -/
theorem isBlank_trimOf (t : Text) : isBlank (trimOf isTerminator t) = isBlank t := by
  refine trimOf_induction (motive := fun u => isBlank u = isBlank t) (fun c u terminator same => ?_)
    (fun c u terminator same => ?_) rfl
  · rw [← same, isBlank, isBlank, List.all_cons, isBlankChar_of_terminator terminator,
      Bool.true_and]
  · rw [← same, isBlank, isBlank, List.all_append, List.all_cons, isBlankChar_of_terminator terminator,
      List.all_nil, Bool.and_self, Bool.and_true]

theorem trimEndOf_of_bare {t : Text} (bare : IsBare t) : trimEndOf isTerminator t = [] := by
  rw [trimEndOf, List.dropWhile_eq_nil_iff.mpr fun c member => bare c (List.mem_reverse.mp member), List.reverse_nil]

theorem trimEndOf_eq_self {t : Text} (free : ∀ c ∈ t, isTerminator c = false) : trimEndOf isTerminator t = t :=
  trimEndOf_of_back fun c last => free c (List.mem_of_getLast? last)

theorem trimEndOf_append_of_bare {u : Text} (bare : IsBare u) (t : Text) :
    trimEndOf isTerminator (t ++ u) = trimEndOf isTerminator t := by
  rw [trimEndOf, List.reverse_append,
    List.dropWhile_append_of_pos fun c member => bare c (List.mem_reverse.mp member), trimEndOf]

theorem trimEndOf_append {u : Text} (filled : ¬IsBare u) (t : Text) :
    trimEndOf isTerminator (t ++ u) = t ++ trimEndOf isTerminator u := by
  have left : (u.reverse.dropWhile isTerminator).isEmpty = false := by
    rw [Bool.eq_false_iff]
    intro none
    refine filled fun c member => ?_
    exact List.dropWhile_eq_nil_iff.mp (List.isEmpty_iff.mp none) c (List.mem_reverse.mpr member)
  rw [trimEndOf, List.reverse_append, List.dropWhile_append, if_neg (by simp [left]), List.reverse_append,
    List.reverse_reverse, trimEndOf]

/-- What is trimmed off at the end are terminators. -/
theorem exists_trimEndOf (t : Text) : ∃ u, IsBare u ∧ t = trimEndOf isTerminator t ++ u := by
  refine ⟨(t.reverse.takeWhile isTerminator).reverse, fun c member => ?_, ?_⟩
  · exact List.mem_takeWhile_imp (List.mem_reverse.mp member)
  · rw [trimEndOf, ← List.reverse_append, List.takeWhile_append_dropWhile, List.reverse_reverse]

theorem trimEndOf_trimEndOf (t : Text) :
    trimEndOf isTerminator (trimEndOf isTerminator t) = trimEndOf isTerminator t := by
  obtain ⟨u, bare, same⟩ := exists_trimEndOf t
  conv_rhs => rw [same, trimEndOf_append_of_bare bare]

/-- A trimmed line holds no line feed, as a line has it only at its end. -/
theorem Lined.notMem_trimEndOf {l : Text} {ls : List Text} (lined : Lined (l :: ls)) :
    '\n' ∉ trimEndOf isTerminator l := by
  rcases Lined.cons_iff.mp lined with ⟨-, -, free⟩ | ⟨x, free, rfl, -⟩
  · exact fun member => free (trimEndOf_subset _ l member)
  · rw [trimEndOf_concat (by rfl)]
    exact fun member => free (trimEndOf_subset _ x member)

/-- The lines `init` and `m` are left when the lines of terminators at both ends of `ls` are taken off. -/
structure Trimmed (ls init : List Text) (m : Text) : Prop where
  cut : ∃ lead blanks, ls = lead ++ (init ++ m :: blanks) ∧ (∀ l ∈ lead, IsBare l) ∧ ∀ l ∈ blanks, IsBare l
  last : ¬IsBare m
  first : ∀ l ∈ (init ++ [m]).head?, ¬IsBare l

theorem exists_trimmed (ls : List Text) : (∀ l ∈ ls, IsBare l) ∨ ∃ init m, Trimmed ls init m := by
  induction ls with
  | nil => exact .inl fun l member => by simp at member
  | cons l ls ih =>
    by_cases bare : IsBare l
    · rcases ih with all | ⟨init, m, ⟨lead, blanks, cut, before, after⟩, last, first⟩
      · exact .inl (List.forall_mem_cons.mpr ⟨bare, all⟩)
      · refine .inr ⟨init, m, ⟨l :: lead, blanks, ?_, List.forall_mem_cons.mpr ⟨bare, before⟩, after⟩, last, first⟩
        rw [cut, List.cons_append]
    · right
      rcases ih with all | ⟨init, m, ⟨lead, blanks, cut, before, after⟩, last, first⟩
      · exact ⟨[], l, ⟨[], ls, rfl, by simp, all⟩, bare, by simpa using bare⟩
      · exact ⟨l :: (lead ++ init), m, ⟨[], blanks, by simp [cut], by simp, after⟩, last, by simpa using bare⟩

namespace Trimmed

variable {ls init : List Text} {m : Text}

theorem subset (trimmed : Trimmed ls init m) : init ++ [m] ⊆ ls := by
  obtain ⟨lead, blanks, rfl, -, -⟩ := trimmed.cut
  intro l member
  simp only [List.mem_append, List.mem_cons] at member ⊢
  tauto

theorem lined (trimmed : Trimmed ls init m) (lined : Lined ls) : EndsLine init.flatten ∧ Lined init ∧
    '\n' ∉ trimEndOf isTerminator m := by
  obtain ⟨lead, blanks, rfl, -, -⟩ := trimmed.cut
  exact ⟨lined.right.endsLine_left (by simp), lined.right.left, lined.right.right.notMem_trimEndOf⟩

/-- The first character that is left is no terminator. -/
theorem head_kept (trimmed : Trimmed ls init m) (lined : Lined ls) (clean : ∀ l ∈ ls, StartsClean l) (t : Text) :
    trimStartOf isTerminator ((init ++ [m]).flatten ++ t) = (init ++ [m]).flatten ++ t := by
  have subset := trimmed.subset
  obtain ⟨lead, blanks, rfl, -, -⟩ := trimmed.cut
  obtain ⟨l, rest, cut⟩ := List.exists_cons_of_ne_nil (show init ++ [m] ≠ [] by simp)
  have filled : ¬IsBare l := trimmed.first l (by rw [cut]; rfl)
  have below : Lined (l :: (rest ++ blanks)) := by
    have lined := lined.right
    rw [← List.singleton_append, ← List.append_assoc, cut] at lined
    exact lined
  cases l with
  | nil => exact absurd (fun c member => by simp at member) filled
  | cons c x =>
    have other : isTerminator c = false := by
      rw [Bool.eq_false_iff]
      intro terminator
      rcases terminator_cases terminator with rfl | rfl
      · rcases Lined.cons_iff.mp below with ⟨-, -, free⟩ | ⟨y, free, same, -⟩
        · exact free List.mem_cons_self
        · cases y with
          | nil => exact filled (by rw [same]; simp [IsBare, isTerminator])
          | cons d y =>
            simp only [List.cons_append, List.cons.injEq] at same
            exact free (same.1 ▸ List.mem_cons_self)
      · exact filled (clean _ (subset (cut ▸ List.mem_cons_self)) rfl)
    rw [cut, List.flatten_cons, List.cons_append, List.cons_append]
    exact trimStartOf_of_front (by simpa using other)

theorem trimOf_flatten (trimmed : Trimmed ls init m) (lined : Lined ls) (clean : ∀ l ∈ ls, StartsClean l) :
    trimOf isTerminator ls.flatten = init.flatten ++ trimEndOf isTerminator m := by
  have kept := trimmed.head_kept lined clean
  obtain ⟨lead, blanks, rfl, before, after⟩ := trimmed.cut
  have text : (lead ++ (init ++ m :: blanks)).flatten =
      lead.flatten ++ ((init ++ [m]).flatten ++ blanks.flatten) := by
    simp
  rw [text, trimOf, trimStartOf, List.dropWhile_append_of_pos (IsBare.flatten before), ← trimStartOf, kept,
    trimEndOf_append_of_bare (IsBare.flatten after), List.flatten_append, List.flatten_singleton,
    trimEndOf_append trimmed.last]

end Trimmed

end Cleave.Text
