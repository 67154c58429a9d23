import Mathlib.Tactic
import WordCodec.Layout.Bits

/-!
# Masks, truncation and places

Two views of the arithmetic that every layout is built from.

**As numbers**, `truncate` is a remainder, `extract` a quotient followed by a remainder, and `place`
a product: `toNat_truncate`, `toNat_extract`, `toNat_place`.

**As bits**, each of them keeps some bits of its argument, moves them by the same distance, and
clears the others: `bitAt_truncate`, `bitAt_extract`, `bitAt_place`.  Two words with the same bits
are equal (`eq_of_bitAt_eq`), so a law about ranges of bits is checked at one bit at a time.

The laws of a single range follow from the second view.  A value put into a range is read back from
it as far as the range lies within the word (`extract_place`), and putting back what was read leaves
just the bits of the range (`place_extract`).
-/

namespace WordCodec

/-! ## As numbers -/

/-- The amount by which a word is moved, for a move within the word. -/
lemma toNat_ofNat_mod_wordBits {shift : ℕ} (hshift : shift < wordBits) :
    (UInt64.ofNat shift).toNat % 64 = shift := by
  rw [UInt64.toNat_ofNat']
  unfold wordBits at hshift
  omega

lemma toNat_one_shiftLeft {width : ℕ} (hwidth : width < wordBits) :
    ((1 : UInt64) <<< UInt64.ofNat width).toNat = 2 ^ width := by
  have hpow : 2 ^ width < 2 ^ 64 := Nat.pow_lt_pow_right (by decide) hwidth
  rw [UInt64.toNat_shiftLeft, toNat_ofNat_mod_wordBits hwidth, UInt64.toNat_one, Nat.shiftLeft_eq,
    Nat.one_mul, Nat.mod_eq_of_lt hpow]

lemma toNat_lowMask_of_lt {width : ℕ} (hwidth : width < wordBits) :
    (lowMask width).toNat = 2 ^ width - 1 := by
  have hle : (1 : UInt64) ≤ 1 <<< UInt64.ofNat width := by
    rw [UInt64.le_iff_toNat_le, toNat_one_shiftLeft hwidth]
    exact Nat.one_le_two_pow
  rw [lowMask, if_pos hwidth, UInt64.toNat_sub_of_le _ _ hle, toNat_one_shiftLeft hwidth]
  rfl

/-- **Truncation is a remainder**, at every width. -/
lemma toNat_truncate (value : UInt64) (width : ℕ) :
    (truncate value width).toNat = value.toNat % 2 ^ width := by
  by_cases hwidth : width < wordBits
  · rw [truncate, UInt64.toNat_and, toNat_lowMask_of_lt hwidth, Nat.and_two_pow_sub_one_eq_mod]
  · have hpow : 2 ^ 64 ≤ 2 ^ width := Nat.pow_le_pow_right (by decide) (Nat.le_of_not_lt hwidth)
    rw [truncate, lowMask, if_neg hwidth, UInt64.and_neg_one,
      Nat.mod_eq_of_lt (lt_of_lt_of_le value.toNat_lt hpow)]

lemma truncate_of_lt {value : UInt64} {width : ℕ} (h : value.toNat < 2 ^ width) :
    truncate value width = value := by
  refine UInt64.toNat_inj.mp ?_
  rw [toNat_truncate, Nat.mod_eq_of_lt h]

lemma toNat_shiftRight (word : UInt64) {shift : ℕ} (hshift : shift < wordBits) :
    (word >>> UInt64.ofNat shift).toNat = word.toNat / 2 ^ shift := by
  rw [UInt64.toNat_shiftRight, toNat_ofNat_mod_wordBits hshift, Nat.shiftRight_eq_div_pow]

lemma toNat_extract (word : UInt64) {shift : ℕ} (hshift : shift < wordBits) (width : ℕ) :
    (extract word shift width).toNat = word.toNat / 2 ^ shift % 2 ^ width := by
  have h := toNat_truncate (word >>> UInt64.ofNat shift) width
  rw [toNat_shiftRight word hshift] at h
  exact h

lemma toNat_place (value : UInt64) {shift : ℕ} (hshift : shift < wordBits) (width : ℕ) :
    (place value shift width).toNat = value.toNat % 2 ^ width * 2 ^ shift % 2 ^ 64 := by
  rw [place, UInt64.toNat_shiftLeft, toNat_ofNat_mod_wordBits hshift, toNat_truncate,
    Nat.shiftLeft_eq]

/-! ## As bits -/

/-- The bit of `word` at position `i`; from position 64 on there is none. -/
def bitAt (word : UInt64) (i : ℕ) : Bool := word.toNat.testBit i

/-- **Words are their bits.** -/
lemma eq_of_bitAt_eq {a b : UInt64} (h : ∀ i, bitAt a i = bitAt b i) : a = b :=
  UInt64.toNat_inj.mp (Nat.eq_of_testBit_eq h)

@[simp] lemma bitAt_or (a b : UInt64) (i : ℕ) : bitAt (a ||| b) i = (bitAt a i || bitAt b i) := by
  rw [bitAt, UInt64.toNat_or, Nat.testBit_or]
  rfl

@[simp] lemma bitAt_and (a b : UInt64) (i : ℕ) : bitAt (a &&& b) i = (bitAt a i && bitAt b i) := by
  rw [bitAt, UInt64.toNat_and, Nat.testBit_and]
  rfl

@[simp] lemma bitAt_zero (i : ℕ) : bitAt 0 i = false := by
  rw [bitAt, UInt64.toNat_zero, Nat.zero_testBit]

lemma bitAt_of_le (word : UInt64) {i : ℕ} (hi : wordBits ≤ i) : bitAt word i = false :=
  Nat.testBit_lt_two_pow (lt_of_lt_of_le word.toNat_lt (Nat.pow_le_pow_right (by decide) hi))

@[simp] lemma bitAt_neg_one (i : ℕ) : bitAt (-1) i = decide (i < wordBits) := by
  have hall : (-1 : UInt64).toNat = 2 ^ 64 - 1 := rfl
  rw [bitAt, hall, Nat.testBit_two_pow_sub_one]
  rfl

lemma bitAt_not (word : UInt64) {i : ℕ} (hi : i < wordBits) :
    bitAt (~~~word) i = !bitAt word i := BitVec.getElem_not hi

/-- No bit of `word` lies outside `mask` exactly when the mask keeps all of them. -/
lemma and_not_eq_zero_iff (word mask : UInt64) : word &&& ~~~mask = 0 ↔ word &&& mask = word := by
  constructor
  · intro h
    refine eq_of_bitAt_eq fun i => ?_
    rcases lt_or_ge i wordBits with hi | hi
    · have hclear : bitAt (word &&& ~~~mask) i = false := by rw [h, bitAt_zero]
      rw [bitAt_and, bitAt_not mask hi] at hclear
      rw [bitAt_and]
      cases hword : bitAt word i with
      | false => rfl
      | true => simpa [hword] using hclear
    · rw [bitAt_of_le _ hi, bitAt_of_le _ hi]
  · intro h
    rw [← h, UInt64.and_assoc, UInt64.and_not_self, UInt64.and_zero]

/-- A value fits a width exactly when truncation keeps it. -/
lemma fits_iff_truncate_eq (value : UInt64) (width : ℕ) :
    fits value width = true ↔ truncate value width = value := by
  rw [fits, beq_iff_eq, truncate, and_not_eq_zero_iff]

lemma fits_iff_toNat_lt (value : UInt64) (width : ℕ) :
    fits value width = true ↔ value.toNat < 2 ^ width := by
  rw [fits_iff_truncate_eq]
  constructor
  · intro h
    rw [← h, toNat_truncate]
    exact Nat.mod_lt _ (Nat.two_pow_pos width)
  · exact truncate_of_lt

@[simp] lemma bitAt_truncate (value : UInt64) (width i : ℕ) :
    bitAt (truncate value width) i = (decide (i < width) && bitAt value i) := by
  rw [bitAt, toNat_truncate, Nat.testBit_mod_two_pow]
  rfl

lemma bitAt_extract (word : UInt64) {shift : ℕ} (hshift : shift < wordBits) (width i : ℕ) :
    bitAt (extract word shift width) i = (decide (i < width) && bitAt word (i + shift)) := by
  rw [bitAt, toNat_extract word hshift, Nat.testBit_mod_two_pow, Nat.testBit_div_two_pow]
  rfl

lemma bitAt_place (value : UInt64) {shift : ℕ} (hshift : shift < wordBits) (width i : ℕ) :
    bitAt (place value shift width) i
      = (decide (i < wordBits) && (decide (shift ≤ i)
          && (decide (i - shift < width) && bitAt value (i - shift)))) := by
  rw [bitAt, toNat_place value hshift, Nat.testBit_mod_two_pow, Nat.testBit_mul_two_pow,
    Nat.testBit_mod_two_pow]
  rfl

/-! ## Ranges of bits -/

variable {shift width : ℕ}

@[simp] lemma truncate_zero (width : ℕ) : truncate 0 width = 0 := by
  rw [truncate, UInt64.zero_and]

/-- A width past the word is the width of the word. -/
lemma truncate_min (value : UInt64) (width : ℕ) :
    truncate value (min width wordBits) = truncate value width := by
  refine eq_of_bitAt_eq fun i => ?_
  rw [bitAt_truncate, bitAt_truncate]
  rcases lt_or_ge i wordBits with hi | hi
  · have hwithin : i < min width wordBits ↔ i < width := by omega
    simp only [hwithin]
  · rw [bitAt_of_le value hi, Bool.and_false, Bool.and_false]

/-- Truncations agree just if the values agree on the bits that are kept. -/
lemma truncate_eq_truncate_iff {value value' : UInt64} {width : ℕ} :
    truncate value width = truncate value' width
      ↔ ∀ i < width, bitAt value i = bitAt value' i := by
  constructor
  · intro h i hi
    have hbit : bitAt (truncate value width) i = bitAt (truncate value' width) i := by rw [h]
    simpa only [bitAt_truncate, hi, decide_true, Bool.true_and] using hbit
  · intro h
    refine eq_of_bitAt_eq fun i => ?_
    rw [bitAt_truncate, bitAt_truncate]
    by_cases hi : i < width
    · rw [h i hi]
    · simp only [hi, decide_false, Bool.false_and]

lemma truncate_truncate (value : UInt64) (width : ℕ) :
    truncate (truncate value width) width = truncate value width := by
  refine eq_of_bitAt_eq fun i => ?_
  rw [bitAt_truncate, bitAt_truncate, ← Bool.and_assoc, Bool.and_self]

/-- What is read from a range is no wider than the range. -/
lemma truncate_extract (word : UInt64) (shift width : ℕ) :
    truncate (extract word shift width) width = extract word shift width :=
  truncate_truncate (word >>> UInt64.ofNat shift) width

/-- Only the bits that a range has room for are put into it. -/
lemma place_truncate (value : UInt64) (shift width : ℕ) :
    place (truncate value width) shift width = place value shift width := by
  rw [place, place, truncate_truncate]

/-- **What is put into a range is read back from it**, up to the width of the range and to the end
of the word. -/
lemma extract_place (value : UInt64) (hshift : shift < wordBits) (width : ℕ) :
    extract (place value shift width) shift width
      = truncate value (min width (wordBits - shift)) := by
  refine eq_of_bitAt_eq fun i => ?_
  rw [bitAt_extract _ hshift, bitAt_place _ hshift, bitAt_truncate, Nat.add_sub_cancel]
  by_cases hi : i < width
  · have hroom : i < min width (wordBits - shift) ↔ i + shift < wordBits := by omega
    simp [hi, hroom]
  · have hroom : ¬i < min width (wordBits - shift) := by omega
    simp only [hi, hroom, decide_false, Bool.false_and]

/-- **Putting back what was read** leaves the bits of the range as they are and clears the others. -/
lemma place_extract (word : UInt64) (hshift : shift < wordBits) :
    place (extract word shift width) shift width = word &&& place (-1) shift width := by
  refine eq_of_bitAt_eq fun i => ?_
  rw [bitAt_and, bitAt_place _ hshift, bitAt_place _ hshift, bitAt_extract _ hshift, bitAt_neg_one]
  by_cases hlow : shift ≤ i
  · have hback : i - shift + shift = i := by omega
    by_cases hword : i < wordBits
    · have hmoved : i - shift < wordBits := by omega
      rw [hback]
      cases bitAt word i <;> simp [hlow, hword, hmoved]
    · simp [hword]
  · simp [hlow]

end WordCodec
