import Mathlib.Algebra.Group.Nat.Defs
import Cleave.Proofs.Text.ByteOrder

/-!
# Reading UTF-8 back

The first byte of a character says how many bytes follow and in what range the next one lies, and each following byte
adds six bits. So a character is read from its bytes (`decodeFrom_encodeChar`), and a lenient reader finds nothing to
replace in the bytes of a text (`decodeLenient_encode`).
-/

namespace Cleave.Utf8

/-! ## Bytes as numbers -/

theorem toNat_ofNat {n : Nat} (fits : n < 256) : (UInt8.ofNat n).toNat = n := by
  simp only [UInt8.toNat_ofNat']
  omega

theorem ofNat_lt {m n : Nat} (fits : m < 256) (fits' : n < 256) : UInt8.ofNat m < UInt8.ofNat n ↔ m < n := by
  rw [UInt8.lt_iff_toNat_lt, toNat_ofNat fits, toNat_ofNat fits']

theorem ofNat_le {m n : Nat} (fits : m < 256) (fits' : n < 256) : UInt8.ofNat m ≤ UInt8.ofNat n ↔ m ≤ n := by
  rw [UInt8.le_iff_toNat_le, toNat_ofNat fits, toNat_ofNat fits']

theorem ofNat_inj {m n : Nat} (fits : m < 256) (fits' : n < 256) : UInt8.ofNat m = UInt8.ofNat n ↔ m = n := by
  rw [← UInt8.toNat_inj, toNat_ofNat fits, toNat_ofNat fits']

/-! ## The reader, byte by byte -/

/-- A leading byte asks for the bytes that follow it. -/
theorem decodeFrom_lead {b n : Nat} {least most : UInt8} (high : 128 ≤ b) (fits : b < 256)
    (asks : following? (.ofNat b) = some (n, least, most)) (rest : Bytes) :
    decodeFrom none (.ofNat b :: rest) =
      decodeFrom (some { code := b % Nat.pow 2 (6 - n), missing := n, least, most }) rest := by
  have other : ¬ UInt8.ofNat b < 0x80 := by
    rw [show (0x80 : UInt8) = .ofNat 128 from rfl, ofNat_lt fits (by decide)]
    omega
  have code : payload (.ofNat b) n = b % Nat.pow 2 (6 - n) := by
    unfold payload
    rw [toNat_ofNat fits]
  rw [decodeFrom, start, if_neg other, asks]
  simp only [code]
  rfl

theorem extend_ofNat {p : Partial} {b : Nat} (fits : b < 256) (above : p.least ≤ .ofNat b) (below : .ofNat b ≤ p.most) :
    p.extend (.ofNat b) =
      if p.missing ≤ 1 then ([some (Char.ofNat (p.code * 64 + b % 64))], none)
      else ([], some { code := p.code * 64 + b % 64, missing := p.missing - 1, least := 0x80, most := 0xBF }) := by
  rw [Partial.extend, toNat_ofNat fits]
  simp [above, below]

/-- The lowest groups of bits, from the front. -/
theorem tail_succ (k v : Nat) : tail (k + 1) v = .ofNat (v / 64 ^ k % 64 + 128) :: tail k v := by
  induction k generalizing v with
  | zero => simp [tail]
  | succ k ih =>
    rw [tail, ih, tail, List.cons_append, Nat.div_div_eq_div_mul, ← Nat.pow_succ']

theorem decodeFrom_tail (k v : Nat) {least most : UInt8} (rest : Bytes)
    (above : least ≤ .ofNat (v / 64 ^ k % 64 + 128)) (below : .ofNat (v / 64 ^ k % 64 + 128) ≤ most) :
    decodeFrom (some { code := v / 64 ^ (k + 1), missing := k + 1, least, most }) (tail (k + 1) v ++ rest) =
      some (Char.ofNat v) :: decodeFrom none rest := by
  induction k generalizing least most with
  | zero =>
    rw [tail_succ, List.cons_append, decodeFrom, extend_ofNat (by omega) above below, if_pos (Nat.le_refl 1)]
    have whole : v / 64 ^ (0 + 1) * 64 + (v / 64 ^ 0 % 64 + 128) % 64 = v := by
      rw [Nat.pow_zero, Nat.zero_add, Nat.pow_one]
      omega
    simp only [whole]
    rfl
  | succ k ih =>
    rw [tail_succ, List.cons_append, decodeFrom, extend_ofNat (by omega) above below, if_neg (by simp)]
    have whole : v / 64 ^ (k + 1 + 1) * 64 + (v / 64 ^ (k + 1) % 64 + 128) % 64 = v / 64 ^ (k + 1) := by
      rw [Nat.pow_succ 64 (k + 1), ← Nat.div_div_eq_div_mul]
      omega
    simp only [whole]
    refine ih ?_ ?_
    · rw [show (0x80 : UInt8) = .ofNat 128 from rfl, ofNat_le (by decide) (by omega)]
      omega
    · rw [show (0xBF : UInt8) = .ofNat 191 from rfl, ofNat_le (by omega) (by decide)]
      omega

/-! ## First bytes -/

/-- The bytes that a leading byte asks for, by its number. -/
theorem following?_ofNat {b : Nat} (fits : b < 256) : following? (.ofNat b) =
    if b < 194 then none
    else if b < 224 then some (1, .ofNat 128, .ofNat 191)
    else if b = 224 then some (2, .ofNat 160, .ofNat 191)
    else if b = 237 then some (2, .ofNat 128, .ofNat 159)
    else if b < 240 then some (2, .ofNat 128, .ofNat 191)
    else if b = 240 then some (3, .ofNat 144, .ofNat 191)
    else if b < 244 then some (3, .ofNat 128, .ofNat 191)
    else if b = 244 then some (3, .ofNat 128, .ofNat 143)
    else none := by
  unfold following?
  simp only [show (0xC2 : UInt8) = .ofNat 194 from rfl, show (0xE0 : UInt8) = .ofNat 224 from rfl,
    show (0xED : UInt8) = .ofNat 237 from rfl, show (0xF0 : UInt8) = .ofNat 240 from rfl,
    show (0xF4 : UInt8) = .ofNat 244 from rfl, ofNat_lt fits (show 194 < 256 by decide),
    ofNat_lt fits (show 224 < 256 by decide), ofNat_lt fits (show 240 < 256 by decide),
    ofNat_lt fits (show 244 < 256 by decide), ofNat_inj fits (show 224 < 256 by decide),
    ofNat_inj fits (show 237 < 256 by decide), ofNat_inj fits (show 240 < 256 by decide),
    ofNat_inj fits (show 244 < 256 by decide)]
  rfl

/-- What the first byte `b` of a form asks for: `n` more bytes, the next of them from `least` to `most`. The ranges
leave out forms that are too long, surrogates, and what is above the last code point. -/
inductive Asks : (b n least most : Nat) → Prop
  | two {b : Nat} (low : 194 ≤ b) (high : b < 224) : Asks b 1 128 191
  | threeLeast : Asks 224 2 160 191
  | three {b : Nat} (low : 225 ≤ b) (high : b < 240) (other : b ≠ 237) : Asks b 2 128 191
  | threeSurrogate : Asks 237 2 128 159
  | fourLeast : Asks 240 3 144 191
  | four {b : Nat} (low : 241 ≤ b) (high : b < 244) : Asks b 3 128 191
  | fourMost : Asks 244 3 128 143

theorem Asks.following? {b n least most : Nat} (asks : Asks b n least most) :
    Utf8.following? (.ofNat b) = some (n, .ofNat least, .ofNat most) := by
  cases asks with
  | two low high => rw [following?_ofNat (by omega), if_neg (by omega), if_pos high]
  | three low high other =>
    rw [following?_ofNat (by omega), if_neg (by omega), if_neg (by omega), if_neg (by omega), if_neg other, if_pos high]
  | four low high =>
    rw [following?_ofNat (by omega), if_neg (by omega), if_neg (by omega), if_neg (by omega), if_neg (by omega),
      if_neg (by omega), if_neg (by omega), if_pos high]
  | _ => rfl

theorem top_eq (k v : Nat) : top k v = v / 64 ^ k := by
  induction k generalizing v with
  | zero => simp [top]
  | succ k ih => rw [top, ih, Nat.div_div_eq_div_mul, Nat.pow_succ']

/-- The first byte of a character asks for as many bytes as follow, and the next one is in the range it asks for. -/
theorem asks_first {v k : Nat} (bound : v < 0x110000) (scalar : v < 0xD800 ∨ 0xDFFF < v) (wide : width v = k + 1) :
    128 ≤ first v ∧ first v % Nat.pow 2 (6 - (k + 1)) = v / 64 ^ (k + 1) ∧
      ∃ least most, Asks (first v) (k + 1) least most ∧
        least ≤ v / 64 ^ k % 64 + 128 ∧ v / 64 ^ k % 64 + 128 ≤ most ∧ most < 256 := by
  simp only [first, wide, top_eq]
  rw [width] at wide
  split_ifs at wide
  · obtain rfl : k = 0 := by omega
    simp only [mark, Nat.pow_zero, Nat.zero_add, Nat.pow_one]
    exact ⟨by omega, by simp; omega, 128, 191, .two (by omega) (by omega), by omega, by omega, by decide⟩
  · obtain rfl : k = 1 := by omega
    simp only [mark, Nat.pow_one]
    refine ⟨by omega, by simp; omega, ?_⟩
    by_cases low : v / 64 ^ 2 = 0
    · rw [low]
      exact ⟨160, 191, .threeLeast, by omega, by omega, by decide⟩
    · by_cases surrogate : v / 64 ^ 2 = 13
      · rw [surrogate]
        exact ⟨128, 159, .threeSurrogate, by omega, by omega, by decide⟩
      · exact ⟨128, 191, .three (by omega) (by omega) (by omega), by omega, by omega, by decide⟩
  · obtain rfl : k = 2 := by omega
    simp only [mark]
    refine ⟨by omega, by simp; omega, ?_⟩
    by_cases low : v / 64 ^ 3 = 0
    · rw [low]
      exact ⟨144, 191, .fourLeast, by omega, by omega, by decide⟩
    · by_cases high : v / 64 ^ 3 = 4
      · rw [high]
        exact ⟨128, 143, .fourMost, by omega, by omega, by decide⟩
      · exact ⟨128, 191, .four (by omega) (by omega), by omega, by omega, by decide⟩

/-! ## Characters and texts -/

/-- A character is decoded from its bytes. -/
theorem decodeFrom_encodeChar (c : Char) (rest : Bytes) :
    decodeFrom none (String.utf8EncodeChar c ++ rest) = some c :: decodeFrom none rest := by
  have bound := toNat_lt c
  have valid : c.toNat < 0xD800 ∨ 0xDFFF < c.toNat := by
    rcases c.valid with low | ⟨high, -⟩
    · exact .inl low
    · exact .inr high
  have fits := first_fits bound
  rw [encodeChar_eq, List.cons_append]
  by_cases ascii : width c.toNat = 0
  · have low : c.toNat < 128 := by
      rw [width] at ascii
      split_ifs at ascii
      omega
    have lead : UInt8.ofNat c.toNat < 0x80 := by
      rw [show (0x80 : UInt8) = .ofNat 128 from rfl, ofNat_lt (by omega) (by decide)]
      exact low
    rw [first, ascii, mark, top, Nat.zero_add, decodeFrom, start, if_pos lead, toNat_ofNat (by omega), Char.ofNat_toNat]
    rfl
  · obtain ⟨k, wide⟩ := Nat.exists_eq_succ_of_ne_zero ascii
    obtain ⟨high, code, least, most, asks, above, below, highest⟩ := asks_first bound valid wide
    rw [decodeFrom_lead high fits asks.following?, code, wide]
    refine decodeFrom_tail k c.toNat rest ?_ ?_ |>.trans (by rw [Char.ofNat_toNat])
    · exact (ofNat_le (by omega) (by omega)).mpr above
    · exact (ofNat_le (by omega) highest).mpr below

/-- What is read from the bytes of a text is the text. -/
theorem decodeLenient_encode (t : Text) : decodeLenient (encode t) = t := by
  have decoded : decodeFrom none (encode t) = t.map some := by
    induction t with
    | nil => rfl
    | cons c t ih => rw [encode_cons, decodeFrom_encodeChar, ih, List.map_cons]
  rw [decodeLenient, decoded, List.map_map]
  exact List.map_id t

/-! ## Plain characters -/

theorem encodeChar_of_ascii {c : Char} (ascii : c.toNat < 128) : String.utf8EncodeChar c = [.ofNat c.toNat] := by
  have narrow : width c.toNat = 0 := if_pos (by omega)
  rw [encodeChar_eq, first, narrow, mark, top, tail, Nat.zero_add]

theorem high_of_mem_tail {b : UInt8} {k v : Nat} (member : b ∈ tail k v) : 128 ≤ b.toNat := by
  induction k generalizing v with
  | zero => cases member
  | succ k ih =>
    rcases List.mem_append.mp member with front | last
    · exact ih front
    · rw [List.mem_singleton.mp last, toNat_ofNat (by omega)]
      omega

/-- No byte of another character is the byte of a plain one. -/
theorem high_of_mem_encodeChar {b : UInt8} {c : Char} (wide : 128 ≤ c.toNat) (member : b ∈ String.utf8EncodeChar c) :
    128 ≤ b.toNat := by
  have fits := first_fits (toNat_lt c)
  rw [encodeChar_eq] at member
  rcases List.mem_cons.mp member with rfl | later
  · rw [toNat_ofNat fits, first, width]
    split_ifs
    · omega
    all_goals simp only [mark]; omega
  · exact high_of_mem_tail later

end Cleave.Utf8
