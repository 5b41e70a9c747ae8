import Mathlib.Data.List.Forall2
import Cleave.Domain.Key
import Cleave.Proofs.Text.Trim

/-!
# Keys as they are read

A key is written as a word of letters, digits, `_` and `-`, and white space around the word does not count. The word
`misc` in any case of its letters is the reserved key, and every other word is a key of its own (`Reads`). Keys that
are read differ in print, and a printed key is read as the key it was printed from (`parse_grammar`).
-/

namespace Cleave.DomainKey

variable {s t : Text} {key other : DomainKey}

/-! ## Words -/

/-- A letter or a digit of ASCII, `_` or `-`. -/
def IsKeyLetter (c : Char) : Prop :=
  ('a' ≤ c ∧ c ≤ 'z') ∨ ('A' ≤ c ∧ c ≤ 'Z') ∨ ('0' ≤ c ∧ c ≤ '9') ∨ c = '_' ∨ c = '-'

/-- A text of letters, digits, `_` and `-` that is not empty. -/
structure IsWord (t : Text) : Prop where
  filled : t ≠ []
  letters : ∀ c ∈ t, IsKeyLetter c

theorem isKeyChar_iff {c : Char} : isKeyChar c = true ↔ IsKeyLetter c := by
  unfold isKeyChar IsKeyLetter Char.isAlphanum Char.isAlpha Char.isUpper Char.isLower Char.isDigit
  simp only [Bool.or_eq_true, Bool.and_eq_true, decide_eq_true_eq, beq_iff_eq, Char.le_def]
  tauto

/-- The letters of a key by their numbers. -/
theorem isKeyLetter_iff {c : Char} :
    IsKeyLetter c ↔ (97 ≤ c.toNat ∧ c.toNat ≤ 122) ∨ (65 ≤ c.toNat ∧ c.toNat ≤ 90) ∨
      (48 ≤ c.toNat ∧ c.toNat ≤ 57) ∨ c = '_' ∨ c = '-' := .rfl

/-- All letters of a key lie between `-` and `z`, where there is no white space. -/
theorem IsKeyLetter.not_blank {c : Char} (letter : IsKeyLetter c) : Text.isBlankChar c = false := by
  have range : 45 ≤ c.toNat ∧ c.toNat ≤ 122 := by
    rcases isKeyLetter_iff.mp letter with range | range | range | rfl | rfl
    · omega
    · omega
    · omega
    · decide
    · decide
  simp only [Text.isBlankChar, Bool.or_eq_false_iff, Bool.and_eq_false_iff, decide_eq_false_iff_not, beq_eq_false_iff_ne]
  omega

/-- The test for a word. -/
theorem not_isWord_iff : ¬IsWord t ↔ (t.isEmpty || !t.all isKeyChar) = true := by
  have word : IsWord t ↔ t ≠ [] ∧ ∀ c ∈ t, isKeyChar c = true := by
    simp only [isKeyChar_iff]
    exact ⟨fun word => ⟨word.filled, word.letters⟩, fun word => ⟨word.1, word.2⟩⟩
  rw [word, not_and_or, not_not, Bool.or_eq_true, List.isEmpty_iff, Bool.not_eq_true', ← Bool.not_eq_true,
    List.all_eq_true]

/-- A word has no white space around it. -/
theorem IsWord.isTrimOf (word : IsWord t) : Text.IsTrimOf Text.isBlankChar t t :=
  Text.isTrimOf_self fun c member => (word.letters c member).not_blank

/-! ## The reserved word -/

/-- The printed form of the reserved key, each of its letters in lower or in upper case. -/
def SpellsMisc (t : Text) : Prop :=
  List.Forall₂ (fun c letter => c = letter ∨ c = letter.toUpper) t miscText

theorem toNat_toLower (c : Char) :
    c.toLower.toNat = if 65 ≤ c.toNat ∧ c.toNat ≤ 90 then c.toNat + 32 else c.toNat := by
  unfold Char.toLower
  split
  · rename_i upper
    have upper : 65 ≤ c.toNat ∧ c.toNat ≤ 90 := upper
    rw [if_pos upper]
    change (c.val + 32).toNat = c.toNat + 32
    rw [UInt32.toNat_add, Char.toNat_val]
    exact Nat.mod_eq_of_lt (by simp; omega)
  · rename_i other
    exact (if_neg other).symm

theorem toNat_toUpper (c : Char) :
    c.toUpper.toNat = if 97 ≤ c.toNat ∧ c.toNat ≤ 122 then c.toNat - 32 else c.toNat := by
  unfold Char.toUpper
  split
  · rename_i lower
    have lower : 97 ≤ c.toNat ∧ c.toNat ≤ 122 := lower
    rw [if_pos lower]
    -- The distance between the cases is below zero, so it stands for its complement.
    change (c.val + ('A'.val - 'a'.val)).toNat = c.toNat - 32
    rw [UInt32.toNat_add, Char.toNat_val]
    simp
    omega
  · rename_i other
    exact (if_neg other).symm

theorem toLower_eq_iff {c letter : Char} (lower : 97 ≤ letter.toNat ∧ letter.toNat ≤ 122) :
    c.toLower = letter ↔ c = letter ∨ c = letter.toUpper := by
  rw [← Char.toNat_inj, ← Char.toNat_inj, ← Char.toNat_inj, toNat_toLower, toNat_toUpper, if_pos lower]
  split
  · omega
  · omega

theorem map_toLower_eq_iff {u : Text} (lower : ∀ c ∈ u, 97 ≤ c.toNat ∧ c.toNat ≤ 122) :
    t.map Char.toLower = u ↔ List.Forall₂ (fun c letter => c = letter ∨ c = letter.toUpper) t u := by
  induction t generalizing u with
  | nil => cases u <;> simp
  | cons c t ih =>
    cases u with
    | nil => simp
    | cons letter u =>
      obtain ⟨first, rest⟩ := List.forall_mem_cons.mp lower
      rw [List.forall₂_cons, List.map_cons, List.cons.injEq, toLower_eq_iff first, ih rest]

theorem lower_of_mem_miscText : ∀ c ∈ miscText, 97 ≤ c.toNat ∧ c.toNat ≤ 122 := by
  simp [miscText]

theorem spellsMisc_iff : SpellsMisc t ↔ t.map Char.toLower = miscText :=
  (map_toLower_eq_iff lower_of_mem_miscText).symm

/-- The reserved word is a word. -/
theorem SpellsMisc.isWord (spelled : SpellsMisc t) : IsWord t where
  filled := by
    rintro rfl
    cases spelled
  letters := by
    intro c member
    have found : c.toLower ∈ miscText := spellsMisc_iff.mp spelled ▸ List.mem_map_of_mem member
    have lower := lower_of_mem_miscText _ found
    rw [toNat_toLower] at lower
    rw [isKeyLetter_iff]
    split at lower
    · omega
    · omega

/-! ## Reading -/

/-- What a text without white space around it is read as. -/
inductive Reads : Text → Except Text DomainKey → Prop
  | misc {t : Text} (spelled : SpellsMisc t) : Reads t (.ok .misc)
  | named {t : Text} (word : IsWord t) (other : ¬SpellsMisc t) : Reads t (.ok (.named t))
  | refused {t : Text} (invalid : ¬IsWord t) : Reads t (.error t)

/-- A text is read in one way only. -/
theorem Reads.unique {r r' : Except Text DomainKey} (reads : Reads t r) (reads' : Reads t r') : r = r' := by
  cases reads with
  | misc spelled =>
    cases reads' with
    | misc => rfl
    | named _ other => exact absurd spelled other
    | refused invalid => exact absurd spelled.isWord invalid
  | named word other =>
    cases reads' with
    | misc spelled => exact absurd spelled other
    | named => rfl
    | refused invalid => exact absurd word invalid
  | refused invalid =>
    cases reads' with
    | misc spelled => exact absurd spelled.isWord invalid
    | named word => exact absurd word invalid
    | refused => rfl

theorem reads_parse (s : Text) : Reads (Text.trim s) (parse s) := by
  rw [parse]
  generalize Text.trim s = t
  split
  · rename_i spelled
    exact .misc (spellsMisc_iff.mpr spelled)
  · rename_i other
    rw [← spellsMisc_iff] at other
    split
    · rename_i fails
      exact .refused (not_isWord_iff.mpr fails)
    · rename_i passes
      exact .named (not_not.mp fun invalid => passes (not_isWord_iff.mp invalid)) other

/-- A text is read as what is left of it without the white space around it. -/
theorem parse_eq_iff {r : Except Text DomainKey} :
    parse s = r ↔ ∃ t, Text.IsTrimOf Text.isBlankChar s t ∧ Reads t r := by
  simp only [Text.isTrimOf_iff, exists_eq_left]
  constructor
  · rintro rfl
    exact reads_parse s
  · exact (reads_parse s).unique

/-! ## Keys that are read -/

/-- A key as it is read: the reserved key, or a name of letters, digits, `_` and `-` that does not spell the reserved
one. -/
inductive IsRead : DomainKey → Prop
  | misc : IsRead .misc
  | named {n : Text} (filled : n ≠ []) (chars : ∀ c ∈ n, isKeyChar c = true)
      (other : n.map Char.toLower ≠ miscText) : IsRead (.named n)

theorem isRead_named_iff {n : Text} : (named n).IsRead ↔ IsWord n ∧ ¬SpellsMisc n := by
  rw [spellsMisc_iff]
  constructor
  · rintro (_ | ⟨filled, chars, other⟩)
    exact ⟨⟨filled, fun c member => isKeyChar_iff.mp (chars c member)⟩, other⟩
  · rintro ⟨word, other⟩
    exact .named word.filled (fun c member => isKeyChar_iff.mpr (word.letters c member)) other

theorem isRead_of_parse (read : parse t = .ok key) : key.IsRead := by
  obtain ⟨u, -, reads⟩ := parse_eq_iff.mp read
  cases reads with
  | misc => exact .misc
  | named word other => exact isRead_named_iff.mpr ⟨word, other⟩

namespace IsRead

/-- A printed key is read as itself. -/
theorem parse_text (read : key.IsRead) : parse key.text = .ok key := by
  cases key with
  | misc => decide
  | named n =>
    obtain ⟨word, other⟩ := isRead_named_iff.mp read
    exact parse_eq_iff.mpr ⟨n, word.isTrimOf, .named word other⟩

/-- Keys that are read differ in print: no name is printed as the reserved key. -/
theorem eq_of_text (read : key.IsRead) (read' : other.IsRead) (same : key.text = other.text) : key = other := by
  have again := read.parse_text
  rw [same, read'.parse_text] at again
  exact (Except.ok.inj again).symm

end IsRead

theorem exists_parse_iff : (∃ key, parse s = .ok key) ↔ ∃ t, Text.IsTrimOf Text.isBlankChar s t ∧ IsWord t := by
  constructor
  · rintro ⟨key, read⟩
    obtain ⟨t, trimmed, reads⟩ := parse_eq_iff.mp read
    cases reads with
    | misc spelled => exact ⟨t, trimmed, spelled.isWord⟩
    | named word => exact ⟨_, trimmed, word⟩
  · rintro ⟨t, trimmed, word⟩
    by_cases spelled : SpellsMisc t
    · exact ⟨.misc, parse_eq_iff.mpr ⟨t, trimmed, .misc spelled⟩⟩
    · exact ⟨.named t, parse_eq_iff.mpr ⟨t, trimmed, .named word spelled⟩⟩

theorem parse_eq_misc_iff :
    parse s = .ok .misc ↔ ∃ t, Text.IsTrimOf Text.isBlankChar s t ∧ SpellsMisc t := by
  rw [parse_eq_iff]
  constructor
  · rintro ⟨t, trimmed, reads⟩
    cases reads with
    | misc spelled => exact ⟨t, trimmed, spelled⟩
  · rintro ⟨t, trimmed, spelled⟩
    exact ⟨t, trimmed, .misc spelled⟩

theorem parse_eq_named_iff {n : Text} :
    parse s = .ok (.named n) ↔ Text.IsTrimOf Text.isBlankChar s n ∧ IsWord n ∧ ¬SpellsMisc n := by
  rw [parse_eq_iff]
  constructor
  · rintro ⟨t, trimmed, reads⟩
    cases reads with
    | named word other => exact ⟨trimmed, word, other⟩
  · rintro ⟨trimmed, word, other⟩
    exact ⟨n, trimmed, .named word other⟩

theorem parse_eq_error_iff {n : Text} :
    parse s = .error n ↔ Text.IsTrimOf Text.isBlankChar s n ∧ ¬IsWord n := by
  rw [parse_eq_iff]
  constructor
  · rintro ⟨t, trimmed, reads⟩
    cases reads with
    | refused invalid => exact ⟨trimmed, invalid⟩
  · rintro ⟨trimmed, invalid⟩
    exact ⟨n, trimmed, .refused invalid⟩

example : parse " ../escape\n".toList = .error "../escape".toList := by decide

/-- Keys are read by their grammar. A text is a key if a word is left when the white space around it is taken off: the
reserved key if the word spells it in some case, and the key of just that word otherwise. A failure shows what is left
of the text. A key that was read is read again from its print, and no other key that can be read is printed like it. -/
theorem parse_grammar (s : Text) :
    ((∃ key, parse s = .ok key) ↔ ∃ t, Text.IsTrimOf Text.isBlankChar s t ∧ IsWord t) ∧
      (parse s = .ok .misc ↔ ∃ t, Text.IsTrimOf Text.isBlankChar s t ∧ SpellsMisc t) ∧
      (∀ n, parse s = .ok (.named n) ↔ Text.IsTrimOf Text.isBlankChar s n ∧ IsWord n ∧ ¬SpellsMisc n) ∧
      (∀ n, parse s = .error n ↔ Text.IsTrimOf Text.isBlankChar s n ∧ ¬IsWord n) ∧
      (∀ key, parse s = .ok key → parse key.text = .ok key) ∧
      ∀ u key other, parse s = .ok key → parse u = .ok other → key.text = other.text → key = other := by
  refine ⟨exists_parse_iff, parse_eq_misc_iff, fun n => parse_eq_named_iff, fun n => parse_eq_error_iff, ?_, ?_⟩
  · intro key read
    exact (isRead_of_parse read).parse_text
  · intro u key other read read' same
    exact (isRead_of_parse read).eq_of_text (isRead_of_parse read') same

/-- The reserved key in mixed case between two kinds of white space, and once more as it is printed. -/
theorem parse_grammar_sample :
    ∃ key other, parse "\tMiSc\u2003".toList = .ok key ∧ parse "misc".toList = .ok other ∧
      key.text = other.text ∧ key = other ∧ parse key.text = .ok key := by
  have mixed : parse "\tMiSc\u2003".toList = .ok .misc := by decide
  have plain : parse "misc".toList = .ok .misc := by decide
  obtain ⟨-, -, -, -, again, apart⟩ := parse_grammar "\tMiSc\u2003".toList
  exact ⟨.misc, .misc, mixed, plain, rfl, apart _ _ _ mixed plain rfl, again _ mixed⟩

end Cleave.DomainKey
