import Mathlib.Tactic.SplitIfs
import Cleave.Text.Utf8

/-!
# The order of bytes

Texts are compared character by character. UTF-8 keeps this order: a higher code point has a longer form, which starts
with a higher byte, or a form of the same length whose bits are higher from the front. So comparing texts is comparing
their bytes (`encode_lt_encode_iff`).
-/

namespace Cleave.Utf8

/-! ## The form of a character -/

/-- The number of bytes after the first in the form of a code point. -/
def width (v : Nat) : Nat :=
  if v ≤ 0x7F then 0 else if v ≤ 0x7FF then 1 else if v ≤ 0xFFFF then 2 else 3

/-- The bits that mark a first byte, by the number of bytes after it. -/
def mark : Nat → Nat
  | 0 => 0
  | 1 => 0xC0
  | 2 => 0xE0
  | _ => 0xF0

/-- What is left of a code point when `k` groups of six bits are cut off. -/
def top : (k : Nat) → Nat → Nat
  | 0, v => v
  | k + 1, v => top k (v / 64)

/-- The bytes of the lowest `k` groups of six bits. -/
def tail : (k : Nat) → Nat → Bytes
  | 0, _ => []
  | k + 1, v => tail k (v / 64) ++ [.ofNat (v % 64 + 128)]

/-- The first byte of a code point, as a number. -/
def first (v : Nat) : Nat :=
  mark (width v) + top (width v) v

theorem toNat_lt (c : Char) : c.toNat < 0x110000 := by
  rcases c.valid with low | ⟨-, high⟩
  · exact Nat.lt_trans low (by decide)
  · exact high

/-- A character is written as a first byte and the low groups of its bits. -/
theorem encodeChar_eq (c : Char) :
    String.utf8EncodeChar c = .ofNat (first c.toNat) :: tail (width c.toNat) c.toNat := by
  have bound := toNat_lt c
  have value : c.val.toNat = c.toNat := rfl
  simp only [String.utf8EncodeChar, value, first, width]
  split
  · simp [mark, top, tail]
  · split
    · rw [Nat.mod_eq_of_lt (b := 32) (by omega), Nat.add_comm]
      rfl
    · split
      · rw [Nat.mod_eq_of_lt (b := 16) (by omega), Nat.add_comm, ← Nat.div_div_eq_div_mul c.toNat 64 64]
        rfl
      · rw [Nat.mod_eq_of_lt (b := 8) (by omega), Nat.add_comm, ← Nat.div_div_eq_div_mul c.toNat 4096 64,
          ← Nat.div_div_eq_div_mul c.toNat 64 64]
        rfl

theorem first_fits {v : Nat} (bound : v < 0x110000) : first v < 256 := by
  simp only [first, width]
  split_ifs <;> simp only [mark, top] <;> omega

/-- A longer form starts with a higher byte. -/
theorem first_lt_first {v w : Nat} (lower : v < w) (bound : w < 0x110000) (longer : width v ≠ width w) :
    first v < first w := by
  simp only [first, width] at longer ⊢
  split_ifs at longer ⊢ <;> simp only [mark, top] <;> omega

/-! ## Comparing forms -/

theorem ofNat_cons_lt {a b : Nat} (lower : a < b) (fits : b < 256) (s t : Bytes) :
    UInt8.ofNat a :: s < UInt8.ofNat b :: t := by
  have order : (UInt8.ofNat a).toNat < (UInt8.ofNat b).toNat := by
    simp only [UInt8.toNat_ofNat']
    omega
  exact List.cons_lt_cons_iff.mpr (.inl (UInt8.lt_iff_toNat_lt.mpr order))

/-- Of two forms of the same length that of the lower code point is lower, whatever follows. -/
theorem ofNat_cons_tail_lt {m k v w : Nat} (lower : v < w) (fits : m + top k w < 256) (s t : Bytes) :
    .ofNat (m + top k v) :: tail k v ++ s < .ofNat (m + top k w) :: tail k w ++ t := by
  induction k generalizing v w s t with
  | zero => exact ofNat_cons_lt (Nat.add_lt_add_left lower m) fits _ _
  | succ k ih =>
    simp only [tail, top, List.cons_append, List.append_assoc, List.nil_append] at ih ⊢
    by_cases high : v / 64 < w / 64
    · exact ih high fits _ _
    · -- The forms agree up to the last byte.
      have same : v / 64 = w / 64 := by omega
      rw [same, ← List.cons_append, ← List.cons_append]
      exact List.append_left_lt (ofNat_cons_lt (by omega) (by omega) s t)

theorem encodeChar_append_lt {c d : Char} (lower : c < d) (s t : Bytes) :
    String.utf8EncodeChar c ++ s < String.utf8EncodeChar d ++ t := by
  have order : c.toNat < d.toNat := lower
  have bound := toNat_lt d
  rw [encodeChar_eq, encodeChar_eq]
  by_cases same : width c.toNat = width d.toNat
  · rw [first, first, same]
    exact ofNat_cons_tail_lt order (first_fits bound) s t
  · exact ofNat_cons_lt (first_lt_first order bound same) (first_fits bound) _ _

/-! ## Comparing texts -/

theorem encode_cons (c : Char) (t : Text) : encode (c :: t) = String.utf8EncodeChar c ++ encode t :=
  List.flatMap_cons

theorem encode_lt_encode {s t : Text} (lower : s < t) : encode s < encode t := by
  induction lower with
  | nil =>
    rw [encode_cons, encodeChar_eq]
    exact List.nil_lt_cons _ _
  | rel lower =>
    rw [encode_cons, encode_cons]
    exact encodeChar_append_lt lower _ _
  | cons _ ih =>
    rw [encode_cons, encode_cons]
    exact List.append_left_lt ih

/-- The order of texts is the order of their bytes. -/
theorem encode_lt_encode_iff {s t : Text} : encode s < encode t ↔ s < t := by
  refine ⟨fun lower => ?_, encode_lt_encode⟩
  rcases Std.lt_trichotomy s t with below | rfl | above
  · exact below
  · exact absurd lower (List.lt_irrefl _)
  · exact absurd lower (List.lt_asymm (encode_lt_encode above))

end Cleave.Utf8
