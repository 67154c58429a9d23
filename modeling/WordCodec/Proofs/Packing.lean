import WordCodec.Proofs.Bits

/-!
# Packing values into ranges of bits

A `Placement` is a value together with the range of bits it is meant for.  `pack` puts any number of
them into one word, and **nothing is lost if the ranges have no bit in common**.  Layouts are
instances of this: a layout names the ranges, and an instruction supplies the values.

* `bitAt_word` — what one placement adds to a word, bit by bit.
* `bitAt_pack` — a bit of the packed word is set by one of the placements.  From this alone follow
  that the order does not matter (`pack_eq_of_perm`) and that the bits between the ranges are clear
  (`bitAt_pack_of_not_covers`).
* `bitAt_pack_of_covers` — if the ranges are disjoint, a bit within one of them is the value's own,
  so each value is read back (`extract_pack`).
* `toNat_pack` — as a number, the packed word is the **sum** of its parts, since nothing is ever
  carried.

**Disjoint ranges** are ranges without a common position.  An empty range is disjoint from every
other, also from one that it lies in, so this asks for less than that one range ends before the
other begins.
-/

namespace WordCodec

/-- **A value and the range of bits it is meant for.**  The range lies within the word; the value may
be wider than the range. -/
structure Placement where
  value : UInt64
  shift : ℕ
  width : ℕ
  shift_lt : shift < wordBits := by decide
  shift_add_width_le : shift + width ≤ wordBits := by decide
  deriving DecidableEq, Repr

namespace Placement

/-- The word that holds the value in its range, and nothing else. -/
def word (placement : Placement) : UInt64 :=
  place placement.value placement.shift placement.width

/-- Whether the bit at position `i` belongs to the range. -/
def Covers (placement : Placement) (i : ℕ) : Prop :=
  placement.shift ≤ i ∧ i < placement.shift + placement.width

/-- Whether two ranges have no bit in common. -/
def Disjoint (placement other : Placement) : Prop :=
  ∀ i, placement.Covers i → ¬other.Covers i

lemma Covers.lt {placement : Placement} {i : ℕ} (h : placement.Covers i) : i < wordBits :=
  lt_of_lt_of_le h.2 placement.shift_add_width_le

instance (placement : Placement) : DecidablePred placement.Covers :=
  fun _ => inferInstanceAs (Decidable (_ ∧ _))

instance : DecidableRel Disjoint := fun placement other =>
  decidable_of_iff (∀ i < wordBits, placement.Covers i → ¬other.Covers i)
    ⟨fun h i hi => h i hi.lt hi, fun h i _ => h i⟩

instance : Std.Symm Disjoint := ⟨fun _ _ h i hi hi' => h i hi' hi⟩

variable (placement : Placement)

/-! ## One value in its range -/

/-- Since the range lies within the word, moving the value up to it loses nothing. -/
lemma toNat_word :
    placement.word.toNat
      = placement.value.toNat % 2 ^ placement.width * 2 ^ placement.shift := by
  have hroom : 2 ^ placement.width * 2 ^ placement.shift ≤ 2 ^ 64 := by
    rw [← pow_add, Nat.add_comm]
    exact Nat.pow_le_pow_right (by decide) placement.shift_add_width_le
  have hkept : placement.value.toNat % 2 ^ placement.width < 2 ^ placement.width :=
    Nat.mod_lt _ (Nat.two_pow_pos _)
  have hbound : placement.value.toNat % 2 ^ placement.width * 2 ^ placement.shift < 2 ^ 64 :=
    lt_of_lt_of_le (Nat.mul_lt_mul_of_pos_right hkept (Nat.two_pow_pos _)) hroom
  rw [word, toNat_place _ placement.shift_lt, Nat.mod_eq_of_lt hbound]

/-- **What a placement adds to a word**: the bits of the value that its range covers. -/
lemma bitAt_word (i : ℕ) :
    bitAt placement.word i = true
      ↔ placement.Covers i ∧ bitAt placement.value (i - placement.shift) = true := by
  simp only [word, bitAt_place _ placement.shift_lt, Bool.and_eq_true, decide_eq_true_eq]
  constructor
  · rintro ⟨-, hlow, hwidth, hbit⟩
    exact ⟨⟨hlow, by omega⟩, hbit⟩
  · rintro ⟨hcovers, hbit⟩
    have hword := hcovers.lt
    obtain ⟨hlow, hhigh⟩ := hcovers
    exact ⟨hword, hlow, by omega, hbit⟩

end Placement

/-! ## Several values -/

/-- **The packed word**, in which each value stands in its range. -/
def pack (placements : List Placement) : UInt64 :=
  placements.foldr (fun placement bits => placement.word ||| bits) 0

variable {placements : List Placement} {placement : Placement} {i : ℕ}

@[simp] lemma pack_nil : pack [] = 0 := rfl

@[simp] lemma pack_cons (placement : Placement) (placements : List Placement) :
    pack (placement :: placements) = placement.word ||| pack placements := rfl

lemma bitAt_pack (placements : List Placement) (i : ℕ) :
    bitAt (pack placements) i = true
      ↔ ∃ placement ∈ placements, bitAt placement.word i = true := by
  induction placements with
  | nil => simp
  | cons placement placements ih =>
      rw [pack_cons, bitAt_or, Bool.or_eq_true, ih, List.exists_mem_cons_iff]

/-- **The order does not matter**, whether or not the ranges are disjoint. -/
lemma pack_eq_of_perm {others : List Placement} (h : others.Perm placements) :
    pack others = pack placements := by
  refine eq_of_bitAt_eq fun i => ?_
  rw [Bool.eq_iff_iff, bitAt_pack, bitAt_pack]
  simp only [h.mem_iff]

/-- **A bit outside the ranges is clear.** -/
lemma bitAt_pack_of_not_covers (h : ∀ placement ∈ placements, ¬placement.Covers i) :
    bitAt (pack placements) i = false := by
  rw [← Bool.not_eq_true, bitAt_pack]
  rintro ⟨placement, hmem, hbit⟩
  exact h placement hmem ((placement.bitAt_word i).mp hbit).1

/-- **A bit within a range is the bit of its value**, since no other range reaches it. -/
lemma bitAt_pack_of_covers (hdisjoint : placements.Pairwise Placement.Disjoint)
    (hmem : placement ∈ placements) (hi : placement.Covers i) :
    bitAt (pack placements) i = bitAt placement.value (i - placement.shift) := by
  rw [Bool.eq_iff_iff, bitAt_pack]
  constructor
  · rintro ⟨other, hother, hbit⟩
    obtain ⟨hcovers, hvalue⟩ := (other.bitAt_word i).mp hbit
    obtain rfl : other = placement := by
      by_contra hne
      exact hdisjoint.forall hother hmem hne i hcovers hi
    exact hvalue
  · intro hbit
    exact ⟨placement, hmem, (placement.bitAt_word i).mpr ⟨hi, hbit⟩⟩

/-- **Each value is read back**, cut down to the width of its range. -/
lemma extract_pack (hdisjoint : placements.Pairwise Placement.Disjoint)
    (hmem : placement ∈ placements) :
    extract (pack placements) placement.shift placement.width
      = truncate placement.value placement.width := by
  refine eq_of_bitAt_eq fun i => ?_
  rw [bitAt_extract _ placement.shift_lt, bitAt_truncate]
  by_cases hi : i < placement.width
  · have hcovers : placement.Covers (i + placement.shift) := ⟨Nat.le_add_left _ _, by omega⟩
    rw [bitAt_pack_of_covers hdisjoint hmem hcovers, Nat.add_sub_cancel]
  · simp only [hi, decide_false, Bool.false_and]

/-! ## Sums without carries -/

/-- **A union without a common bit is a sum.** -/
lemma toNat_or_of_apart {a b : UInt64} (h : ∀ i, bitAt a i = true → bitAt b i = false) :
    (a ||| b).toNat = a.toNat + b.toNat := by
  have hand : a &&& b = 0 := by
    refine eq_of_bitAt_eq fun i => ?_
    rw [bitAt_and, bitAt_zero]
    cases ha : bitAt a i with
    | false => rfl
    | true => exact h i ha
  have hbits : a.toBitVec &&& b.toBitVec = 0 := congrArg UInt64.toBitVec hand
  calc (a ||| b).toNat = (a.toBitVec ||| b.toBitVec).toNat := rfl
    _ = (a.toBitVec + b.toBitVec).toNat := by rw [BitVec.add_eq_or_of_and_eq_zero _ _ hbits]
    _ = a.toNat + b.toNat := BitVec.toNat_add_of_and_eq_zero hbits

/-- **A word of disjoint parts is the sum of the parts.** -/
lemma toNat_pack (hdisjoint : placements.Pairwise Placement.Disjoint) :
    (pack placements).toNat = (placements.map fun placement => placement.word.toNat).sum := by
  induction placements with
  | nil => rfl
  | cons placement placements ih =>
      rw [List.pairwise_cons] at hdisjoint
      have hcarry : ∀ i, bitAt placement.word i = true → bitAt (pack placements) i = false := by
        intro i hbit
        have hcovers := ((placement.bitAt_word i).mp hbit).1
        exact bitAt_pack_of_not_covers fun other hother => hdisjoint.1 other hother i hcovers
      rw [pack_cons, toNat_or_of_apart hcarry, ih hdisjoint.2, List.map_cons, List.sum_cons]

/-- **Packing loses nothing.**  If no two of the ranges share a bit, the packed word is the exact sum
of its parts, each value is read back as far as its range is wide, all bits outside the ranges are
clear, and the order in which the values were packed cannot be told.

A single value is read back from any range that begins within the word.  What comes back are the
bits for which there was room, both in the range and below the end of the word; so it is the value
itself if that fits a range within the word. -/
theorem packing_loses_nothing :
    (∀ placements : List Placement, placements.Pairwise Placement.Disjoint →
        (pack placements).toNat = (placements.map fun placement => placement.word.toNat).sum
          ∧ (∀ placement ∈ placements,
            extract (pack placements) placement.shift placement.width
              = truncate placement.value placement.width)
          ∧ (∀ i, (∀ placement ∈ placements, ¬placement.Covers i) →
            bitAt (pack placements) i = false)
          ∧ ∀ others : List Placement, others.Perm placements → pack others = pack placements)
      ∧ ∀ (value : UInt64) (shift width : ℕ), shift < wordBits →
        (extract (place value shift width) shift width).toNat
            = value.toNat % 2 ^ min width (wordBits - shift)
          ∧ (fits value width = true → shift + width ≤ wordBits →
            extract (place value shift width) shift width = value) := by
  refine ⟨fun placements hdisjoint => ⟨toNat_pack hdisjoint,
    fun placement hmem => extract_pack hdisjoint hmem,
    fun i houtside => bitAt_pack_of_not_covers houtside,
    fun others hperm => pack_eq_of_perm hperm⟩, fun value shift width hshift => ⟨?_, ?_⟩⟩
  · rw [extract_place value hshift, toNat_truncate]
  · intro hfits hroom
    have hwidth : min width (wordBits - shift) = width := by omega
    rw [extract_place value hshift, hwidth, ← fits_iff_truncate_eq]
    exact hfits

/-- An empty range may stand within another one, a value may be wider than its range, and a single
range may run off the top of the word. -/
theorem packing_loses_nothing_around_empty_range :
    [Placement.mk 3 63 1, .mk 9 44 0, .mk 0x25 42 5].Pairwise Placement.Disjoint
      ∧ (∃ word, word = pack [.mk 3 63 1, .mk 9 44 0, .mk 0x25 42 5]
        ∧ word.toNat = 2 ^ 63 + 5 * 2 ^ 42
        ∧ extract word 42 5 = 5
        ∧ bitAt word 47 = false
        ∧ pack [.mk 0x25 42 5, .mk 3 63 1, .mk 9 44 0] = word)
      ∧ (extract (place 0xFF 60 8) 60 8).toNat = 0xF
      ∧ extract (place 0xF 60 4) 60 4 = 0xF := by
  have hdisjoint : [Placement.mk 3 63 1, .mk 9 44 0, .mk 0x25 42 5].Pairwise Placement.Disjoint := by
    decide
  obtain ⟨hpack, hsingle⟩ := packing_loses_nothing
  obtain ⟨hsum, hread, houtside, hperm⟩ := hpack _ hdisjoint
  have hindex := hread (.mk 0x25 42 5) (by simp)
  refine ⟨hdisjoint, ⟨_, rfl, hsum.trans (by decide), hindex.trans (by decide),
    houtside 47 (by decide), hperm _ (by decide)⟩, (hsingle 0xFF 60 8 (by decide)).1,
    (hsingle 0xF 60 4 (by decide)).2 (by decide) (by decide)⟩

end WordCodec
