import WordCodec.Proofs.SignExtension

/-!
# Patterns and signed numbers

The two directions of two's complement are **inverse as far as the width allows**.  Going from a
pattern to its number and back keeps the low bits of the pattern (`toTwosComplement_signExtend`).
Going from a number to its pattern and back keeps the balanced remainder
(`toInt_signExtend_toTwosComplement_min`), and so it keeps the number itself exactly when that lies
in the range of the width (`fitsSigned_iff`).

This holds at every width.  There is only one number of no bits, and from 64 on all widths are the
same.

**No step leaves the word.**  A machine moves a word by less than its length, and a difference of
counts is never negative.  `signExtend?` and its kind compute the same with a guard in front of every
such step, and give no result where a guard is not met.  `signExtend?_eq`, `toTwosComplement?_eq` and
`fitsSigned?_eq` say that there is no width at which one is not.
-/

namespace WordCodec

variable (value : UInt64) (number : Int64) (width : ℕ)

/-! ## There and back -/

/-- **From a pattern to its number and back**, the low bits are kept. -/
lemma toTwosComplement_signExtend :
    toTwosComplement (signExtend value width) width = truncate value width := by
  rw [toTwosComplement, ← truncate_min, ← truncate_min value, ← bmod_toNat_eq_iff,
    bmod_toNat_toUInt64 _ (min_le_right _ _), toInt_signExtend_min, Int.bmod_bmod]

/-- **From a number to its pattern and back**, its balanced remainder is kept. -/
lemma toInt_signExtend_toTwosComplement_min :
    (signExtend (toTwosComplement number width) width).toInt
      = Int.bmod number.toInt (2 ^ min width wordBits) := by
  rcases Nat.eq_zero_or_pos width with rfl | hpos
  · rw [toInt_signExtend_min, Nat.zero_min, Nat.pow_zero, Int.bmod_one, Int.bmod_one]
  · have hword : 0 < wordBits := by decide
    have hpattern : toTwosComplement number (min width wordBits) = toTwosComplement number width :=
      truncate_min number.toUInt64 width
    rw [← signExtend_min, ← hpattern,
      toInt_signExtend_toTwosComplement number (lt_min hpos hword) (min_le_right _ _)]

/-- **A number fits a width exactly when it lies in the range of the width.**  Of no bits, that is
zero alone. -/
lemma fitsSigned_iff :
    fitsSigned number width = true
      ↔ width = 0 ∧ number = 0
        ∨ 0 < width ∧ -2 ^ (min width wordBits - 1) ≤ number.toInt
          ∧ number.toInt < 2 ^ (min width wordBits - 1) := by
  rw [fitsSigned, beq_iff_eq, ← Int64.toInt_inj, toInt_signExtend_toTwosComplement_min, eq_comm]
  rcases Nat.eq_zero_or_pos width with rfl | hpos
  · rw [Nat.zero_min, Nat.pow_zero, Int.bmod_one, ← Int64.toInt_inj]
    simp
  · have hword : 0 < min width wordBits := lt_min hpos (by decide)
    rw [← isSignedResidue_iff_eq_bmod hword, IsSignedResidue]
    simp [hpos, hpos.ne', Int.ModEq.refl]

/-! ## Within the word

The four steps that could leave the word or pass zero, each with its guard, and the functions of bit
patterns put together from them. -/

/-- A difference of counts, which must not be negative. -/
def difference? (a b : ℕ) : Option ℕ := if b ≤ a then some (a - b) else none

/-- A word counted down by one, which must not be zero. -/
def predecessor? (word : UInt64) : Option UInt64 := if word = 0 then none else some (word - 1)

/-- A word moved up by less than its length. -/
def shiftLeft? (word : UInt64) (amount : ℕ) : Option UInt64 :=
  if amount < wordBits then some (word <<< UInt64.ofNat amount) else none

/-- A signed word moved down by less than its length. -/
def shiftRight? (word : Int64) (amount : ℕ) : Option Int64 :=
  if amount < wordBits then some (word >>> Int64.ofNat amount) else none

/-- `lowMask`, with a guard on the move and on counting down. -/
def lowMask? (width : ℕ) : Option UInt64 :=
  if width < wordBits then do
    let top ← shiftLeft? 1 width
    predecessor? top
  else some (-1)

/-- `truncate` by the guarded mask. -/
def truncate? (value : UInt64) (width : ℕ) : Option UInt64 := do
  let mask ← lowMask? width
  return value &&& mask

/-- `signExtend`, with a guard on the distance and on both moves. -/
def signExtend? (value : UInt64) (width : ℕ) : Option Int64 :=
  if width = 0 then some 0
  else if wordBits ≤ width then some value.toInt64
  else do
    let amount ← difference? wordBits width
    let raised ← shiftLeft? value amount
    shiftRight? raised.toInt64 amount

/-- `toTwosComplement` by the guarded truncation. -/
def toTwosComplement? (number : Int64) (width : ℕ) : Option UInt64 :=
  truncate? number.toUInt64 width

/-- `fitsSigned`, by way of the guarded functions there and back. -/
def fitsSigned? (number : Int64) (width : ℕ) : Option Bool := do
  let pattern ← toTwosComplement? number width
  let back ← signExtend? pattern width
  return back == number

/-- The bit above the mask is there to be counted down from, since it stands within the word. -/
lemma lowMask?_eq : lowMask? width = some (lowMask width) := by
  rw [lowMask?, lowMask]
  split
  · next hwidth =>
    have hone : (1 : UInt64) <<< UInt64.ofNat width ≠ 0 := by
      rw [← UInt64.toNat_inj.ne, toNat_one_shiftLeft hwidth]
      exact (Nat.two_pow_pos width).ne'
    rw [shiftLeft?, if_pos hwidth]
    exact if_neg hone
  · rfl

lemma truncate?_eq : truncate? value width = some (truncate value width) := by
  rw [truncate?, lowMask?_eq]
  rfl

/-- **Sign extension never leaves the word**: it moves by `64 - width` only if that is a number from
one to 63. -/
lemma signExtend?_eq : signExtend? value width = some (signExtend value width) := by
  rw [signExtend?, signExtend]
  split
  · rfl
  split
  · rfl
  -- Only here, strictly between no bits and a whole word, is anything moved.
  have hle : width ≤ wordBits := by omega
  have hlt : wordBits - width < wordBits := by omega
  rw [difference?, if_pos hle, Option.bind_eq_bind, Option.bind_some, shiftLeft?, if_pos hlt,
    Option.bind_eq_bind, Option.bind_some, shiftRight?, if_pos hlt]
  rfl

lemma toTwosComplement?_eq :
    toTwosComplement? number width = some (toTwosComplement number width) :=
  truncate?_eq number.toUInt64 width

lemma fitsSigned?_eq : fitsSigned? number width = some (fitsSigned number width) := by
  rw [fitsSigned?, toTwosComplement?_eq, Option.bind_eq_bind, Option.bind_some, signExtend?_eq]
  rfl

/-! ## The two directions -/

/-- **Patterns and signed numbers correspond, at every width.**  A pattern stands for the one number
in the range of the width that leaves the same remainder, or for zero if there are no bits.  Two
patterns stand for the same number just if their low bits are the same, and the low bits are what the
number gives back.  A number is given back exactly when it lies in the range, and that is what
`fitsSigned` tells.

None of this moves a word by its whole length or subtracts past zero, whatever the width. -/
theorem patterns_and_numbers_correspond :
    signExtend value 0 = 0
      ∧ (0 < width → ∀ candidate : ℤ,
        IsSignedResidue (min width wordBits) value.toNat candidate
          ↔ candidate = (signExtend value width).toInt)
      ∧ (∀ other : UInt64, signExtend other width = signExtend value width
        ↔ ∀ i < min width wordBits, bitAt other i = bitAt value i)
      ∧ (toTwosComplement (signExtend value width) width).toNat
        = value.toNat % 2 ^ min width wordBits
      ∧ (fitsSigned number width = true
        ↔ width = 0 ∧ number = 0
          ∨ 0 < width ∧ -2 ^ (min width wordBits - 1) ≤ number.toInt
            ∧ number.toInt < 2 ^ (min width wordBits - 1))
      ∧ (fitsSigned number width = true
        ↔ signExtend (toTwosComplement number width) width = number)
      ∧ signExtend? value width = some (signExtend value width)
      ∧ toTwosComplement? number width = some (toTwosComplement number width)
      ∧ fitsSigned? number width = some (fitsSigned number width) := by
  refine ⟨rfl, fun hpos candidate => ?_, fun other => ?_, ?_, fitsSigned_iff number width, ?_,
    signExtend?_eq value width, toTwosComplement?_eq number width, fitsSigned?_eq number width⟩
  · rw [toInt_signExtend_min, isSignedResidue_iff_eq_bmod (lt_min hpos (by decide))]
  · rw [signExtend_eq_iff, ← truncate_min other, ← truncate_min value, truncate_eq_truncate_iff]
  · rw [toTwosComplement_signExtend, ← truncate_min, toNat_truncate]
  · rw [fitsSigned, beq_iff_eq]

/-- Far past the word, the pattern of all ones still stands for minus one. -/
theorem patterns_and_numbers_correspond_past_word :
    0 < 2 ^ 32 - 1
      ∧ IsSignedResidue 64 (2 ^ 64 - 1) (-1)
      ∧ signExtend? (-1) (2 ^ 32 - 1) = some (-1) := by
  have hpos : 0 < 2 ^ 32 - 1 := by decide
  obtain ⟨-, hresidue, -, -, -, -, hguarded, -, -⟩ :=
    patterns_and_numbers_correspond (-1) (-1) (2 ^ 32 - 1)
  exact ⟨hpos, (hresidue hpos (-1)).mpr (by decide), hguarded⟩

end WordCodec
