import WordCodec.Proofs.Bits

/-!
# Sign extension is the balanced remainder

A field of `width` bits stands for the one number from `-2 ^ (width - 1)` up to
`2 ^ (width - 1)`, the upper end excluded, that leaves the same remainder modulo `2 ^ width`.  The
shift to the top of the word multiplies that number and the modulus alike, so the arithmetic shift
back divides without remainder (`toInt_signExtend`).

A width past the word is the width of the word, so one equation covers all widths
(`toInt_signExtend_min`).  Hence values stand for the same number just if they agree on the bits of
the field (`signExtend_eq_iff`), and no two values of a field do (`toInt_signExtend_inj`).

The way back is a truncation.  Of a signed number it keeps the remainder, so what the field stands
for is again the balanced remainder, now of the number (`toInt_signExtend_toTwosComplement`); and
it keeps the number itself if that is not negative and below two to the power of the width
(`toNat_toUInt64_lt_iff`).
-/

namespace WordCodec

lemma toInt_toInt64 (value : UInt64) : value.toInt64.toInt = Int.bmod value.toNat (2 ^ 64) := by
  rw [← Int64.toInt_toBitVec, UInt64.toBitVec_toInt64, BitVec.toInt_eq_toNat_bmod]
  rfl

/-- An arithmetic shift within the word divides, and rounds down. -/
lemma toInt_shiftRight (value : Int64) {shift : ℕ} (hshift : shift < wordBits) :
    (value >>> Int64.ofNat shift).toInt = value.toInt / 2 ^ shift := by
  have hall : ∀ shift < 64, ((Int64.ofNat shift).toBitVec.smod 64).toNat = shift := by decide
  have hamount : ((Int64.ofNat shift).toBitVec.smod 64).toNat = shift := hall shift hshift
  rw [← Int64.toInt_toBitVec, Int64.toBitVec_shiftRight, BitVec.sshiftRight_eq',
    BitVec.toInt_sshiftRight, Int.shiftRight_eq_div_pow, hamount]
  push_cast
  rfl

variable {width : ℕ}

/-- **The signed number of a field** is the remainder of its value, taken around zero. -/
lemma toInt_signExtend (value : UInt64) (hpos : 0 < width) (hwidth : width ≤ wordBits) :
    (signExtend value width).toInt = Int.bmod value.toNat (2 ^ width) := by
  rw [signExtend, if_neg (by omega)]
  split
  · obtain rfl : width = wordBits := by omega
    exact toInt_toInt64 value
  · have hshift : signShift width < wordBits := by
      unfold signShift wordBits at *
      omega
    have hsplit : 2 ^ 64 = 2 ^ signShift width * 2 ^ width := by
      rw [← pow_add, signShift, Nat.sub_add_cancel hwidth]
      rfl
    have htwo : 2 ∣ 2 ^ width := dvd_pow_self 2 (by omega)
    calc ((value <<< UInt64.ofNat (signShift width)).toInt64
          >>> Int64.ofNat (signShift width)).toInt
        = Int.bmod (value.toNat * 2 ^ signShift width % 2 ^ 64 : ℕ) (2 ^ 64)
            / 2 ^ signShift width := by
          rw [toInt_shiftRight _ hshift, toInt_toInt64, UInt64.toNat_shiftLeft,
            toNat_ofNat_mod_wordBits hshift, Nat.shiftLeft_eq]
      _ = Int.bmod (2 ^ signShift width * value.toNat : ℕ) (2 ^ 64) / 2 ^ signShift width := by
          rw [Int.natCast_mod, Int.emod_bmod, Nat.mul_comm]
      _ = 2 ^ signShift width * Int.bmod value.toNat (2 ^ width) / 2 ^ signShift width := by
          rw [hsplit, Int.natCast_mul, Int.mod_bmod_mul_of_pos _ _ (Nat.two_pow_pos _) htwo]
          push_cast
          rfl
      _ = Int.bmod value.toNat (2 ^ width) := Int.mul_ediv_cancel_left _ (by positivity)

/-! ## Every width -/

/-- A width past the word is the width of the word. -/
lemma signExtend_min (value : UInt64) (width : ℕ) :
    signExtend value (min width wordBits) = signExtend value width := by
  rcases le_total width wordBits with h | h
  · rw [min_eq_left h]
  · have hword : wordBits ≠ 0 := by decide
    have hwidth : width ≠ 0 := by omega
    rw [min_eq_right h, signExtend, signExtend, if_neg hword, if_neg hwidth, if_pos le_rfl,
      if_pos h]

/-- **Sign extension is the balanced remainder at every width.**  Modulo one, it is zero. -/
lemma toInt_signExtend_min (value : UInt64) (width : ℕ) :
    (signExtend value width).toInt = Int.bmod value.toNat (2 ^ min width wordBits) := by
  rcases Nat.eq_zero_or_pos width with rfl | hpos
  · rw [Nat.zero_min, Nat.pow_zero, Int.bmod_one]
    rfl
  · have hword : 0 < wordBits := by decide
    rw [← signExtend_min, toInt_signExtend value (lt_min hpos hword) (min_le_right _ _)]

/-- Balanced remainders agree just if the low bits do. -/
lemma bmod_toNat_eq_iff {value value' : UInt64} :
    Int.bmod value.toNat (2 ^ width) = Int.bmod value'.toNat (2 ^ width)
      ↔ truncate value width = truncate value' width := by
  rw [← UInt64.toNat_inj, toNat_truncate, toNat_truncate]
  constructor
  · intro h
    have hmod : (value.toNat : ℤ) % (2 ^ width : ℕ) = (value'.toNat : ℤ) % (2 ^ width : ℕ) := by
      rw [← Int.bmod_emod, h, Int.bmod_emod]
    exact_mod_cast hmod
  · intro h
    rw [← Int.emod_bmod, ← Int.natCast_mod, h, Int.natCast_mod, Int.emod_bmod]

/-- **What a value stands for depends on its low bits, and on all of them.** -/
lemma signExtend_eq_iff {value value' : UInt64} :
    signExtend value width = signExtend value' width
      ↔ truncate value width = truncate value' width := by
  rw [← Int64.toInt_inj, toInt_signExtend_min, toInt_signExtend_min, bmod_toNat_eq_iff,
    truncate_min, truncate_min]

/-- No two values of `width` bits stand for the same number. -/
lemma toInt_signExtend_inj {value value' : UInt64} (hvalue : value.toNat < 2 ^ width)
    (hvalue' : value'.toNat < 2 ^ width) :
    (signExtend value width).toInt = (signExtend value' width).toInt ↔ value = value' := by
  rw [Int64.toInt_inj, signExtend_eq_iff, truncate_of_lt hvalue, truncate_of_lt hvalue']

/-- **The signed number of a pattern**: the one in the range of `width` bits that leaves the same
remainder as `value`. -/
def IsSignedResidue (width : ℕ) (value number : ℤ) : Prop :=
  number ≡ value [ZMOD 2 ^ width] ∧ -2 ^ (width - 1) ≤ number ∧ number < 2 ^ (width - 1)

/-- There is one such number, the balanced remainder. -/
lemma isSignedResidue_iff_eq_bmod (hpos : 0 < width) {value number : ℤ} :
    IsSignedResidue width value number ↔ number = Int.bmod value (2 ^ width) := by
  obtain ⟨below, rfl⟩ : ∃ below, width = below + 1 := ⟨width - 1, by omega⟩
  have hdouble : (2 : ℤ) ^ (below + 1) = 2 * 2 ^ below := by ring
  have hcast : ((2 ^ (below + 1) : ℕ) : ℤ) = 2 * 2 ^ below := by
    rw [← hdouble]
    push_cast
    rfl
  rw [eq_comm, Int.bmod_eq_iff (Nat.two_pow_pos _), IsSignedResidue, Int.modEq_comm,
    Int.modEq_iff_dvd, Nat.add_sub_cancel, hcast, hdouble]
  constructor
  · rintro ⟨hmod, hlow, hhigh⟩
    exact ⟨by omega, by omega, hmod⟩
  · rintro ⟨hlow, hhigh, hmod⟩
    exact ⟨hmod, by omega, by omega⟩

/-! ## Patterns of signed numbers -/

/-- A signed number and its pattern in a whole word leave the same remainder. -/
lemma bmod_toNat_toUInt64 (number : Int64) (hwidth : width ≤ wordBits) :
    Int.bmod number.toUInt64.toNat (2 ^ width) = Int.bmod number.toInt (2 ^ width) := by
  have hdvd : 2 ^ width ∣ 2 ^ 64 := Nat.pow_dvd_pow 2 hwidth
  rw [← Int.bmod_bmod_of_dvd hdvd, ← toInt_toInt64, Int64.toInt64_toUInt64]

/-- **What is left of a signed number in a field** is its remainder, taken around zero. -/
lemma toInt_signExtend_toTwosComplement (number : Int64) (hpos : 0 < width)
    (hwidth : width ≤ wordBits) :
    (signExtend (toTwosComplement number width) width).toInt
      = Int.bmod number.toInt (2 ^ width) := by
  rw [toTwosComplement, toInt_signExtend _ hpos hwidth, toNat_truncate, Int.natCast_mod,
    Int.emod_bmod, bmod_toNat_toUInt64 number hwidth]

/-- The pattern of a signed number in a whole word fits a smaller field just if the number is
neither negative nor too large; the pattern of a negative number has its highest bit set. -/
lemma toNat_toUInt64_lt_iff (number : Int64) (hwidth : width < wordBits) :
    number.toUInt64.toNat < 2 ^ width ↔ 0 ≤ number.toInt ∧ number.toInt < 2 ^ width := by
  have hpattern : number.toInt = Int.bmod number.toUInt64.toNat (2 ^ 64) := by
    rw [← toInt_toInt64, Int64.toInt64_toUInt64]
  have hcast : ((2 ^ width : ℕ) : ℤ) = 2 ^ width := by
    push_cast
    rfl
  have hhalf : 2 ^ width ≤ 2 ^ 63 := Nat.pow_le_pow_right (by decide) (Nat.le_of_lt_succ hwidth)
  have hword := number.toUInt64.toNat_lt
  rw [← hcast, hpattern, Int.bmod_def]
  split <;> omega

end WordCodec
