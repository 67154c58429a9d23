import WordCodec.Proofs.BuilderCalls

/-!
# Words as sums of their operands

The layout is written down three times: builders put operands into their places, readers mask them
out again, and `Field.shift` and `Field.width` describe both.  This file says in numbers that the
three agree.  A field adds its value, cut down and moved up, to the number of a word
(`Field.share`), and reading the field divides it out again (`Field.part`).

* `toNat_assemble` — a word put together from fields is the **sum** of their shares, since nothing
  is ever carried.
* `bitAt_assemble_congr` — a bit outside a field does not depend on the value of that field.

The builders are instances of `assemble`, so each of them is a sum, and exchanging one operand
leaves every bit outside its own field as it was.
-/

namespace WordCodec

namespace Field

/-- What a value adds to the number of a word in whose `field` it stands. -/
def share (field : Field) (value : ℕ) : ℕ := value % Nat.pow 2 field.width * Nat.pow 2 field.shift

/-- The value of `field` in the word of a number. -/
def part (field : Field) (number : ℕ) : ℕ :=
  number / Nat.pow 2 field.shift % Nat.pow 2 field.width

/-- Whether the bit at position `i` belongs to the field. -/
def Covers (field : Field) (i : ℕ) : Prop := field.shift ≤ i ∧ i < field.shift + field.width

lemma toNat_put (field : Field) (value : UInt64) :
    (field.put value).toNat = field.share value.toNat := (field.placement value).toNat_word

lemma toNat_get (field : Field) (word : Word) : (field.get word).toNat = field.part word.toNat :=
  toNat_extract word field.shift_lt field.width

/-- An opcode takes up its field without being cut down. -/
lemma share_opcode {opcode : UInt16} (h : opcode ≤ 0xFFF) :
    Field.opcode.share opcode.toNat = opcode.toNat * 2 ^ 52 := by
  have hlt : opcode.toNat < 2 ^ 12 := Nat.lt_succ_of_le (UInt16.le_iff_toNat_le.mp h)
  exact congrArg (· * 2 ^ 52) (Nat.mod_eq_of_lt hlt)

lemma bitAt_put_of_not_covers {field : Field} {i : ℕ} (h : ¬field.Covers i) (value : UInt64) :
    bitAt (field.put value) i = false := by
  rw [← Bool.not_eq_true]
  exact fun hbit => h (((field.placement value).bitAt_word i).mp hbit).1

end Field

/-! ## Words of several fields -/

/-- **A word of fields that lie apart is the sum of what they add to it.** -/
lemma toNat_assemble {fields : List Field} (hapart : fields.Pairwise Field.Apart)
    (values : Field → UInt64) :
    (assemble fields values).toNat
      = (fields.map fun field => field.share (values field).toNat).sum := by
  rw [assemble_eq_pack, toNat_pack (disjoint_placements hapart values), List.map_map]
  refine congrArg List.sum (List.map_congr_left fun field _ => ?_)
  exact field.toNat_put (values field)

/-- **A bit outside a field is the same whatever the field holds.** -/
lemma bitAt_assemble_congr {fields : List Field} {values values' : Field → UInt64} {field : Field}
    (h : ∀ other ∈ fields, other ≠ field → values other = values' other) {i : ℕ}
    (hi : ¬field.Covers i) :
    bitAt (assemble fields values) i = bitAt (assemble fields values') i := by
  induction fields with
  | nil => rfl
  | cons first fields ih =>
      rw [List.forall_mem_cons] at h
      rw [assemble_cons, assemble_cons, bitAt_or, bitAt_or, ih h.2]
      by_cases hfirst : first = field
      · subst hfirst
        rw [Field.bitAt_put_of_not_covers hi, Field.bitAt_put_of_not_covers hi]
      · rw [h.1 hfirst]

namespace BuilderCall

/-- The word of a call is the sum of its opcode and of what the other fields add to it. -/
lemma toNat_word (call : BuilderCall) :
    call.word.toNat
      = call.operation.raw.toNat * 2 ^ 52
        + (call.operation.format.fields.tail.map fun field =>
            field.share (call.value field).toNat).sum := by
  have hfields : call.operation.format.fields
      = Field.opcode :: call.operation.format.fields.tail := by
    cases call <;> rfl
  rw [word_eq_assemble, toNat_assemble call.operation.format.fields_apart, hfields, List.map_cons,
    List.sum_cons, value_opcode, UInt16.toNat_toUInt64, Field.share_opcode call.operation.raw_le,
    List.tail_cons]

lemma bitAt_word_congr {call other : BuilderCall} (hop : call.operation = other.operation)
    {field : Field}
    (h : ∀ kept ∈ call.operation.format.fields, kept ≠ field → call.value kept = other.value kept)
    {i : ℕ} (hi : ¬field.Covers i) : bitAt call.word i = bitAt other.word i := by
  rw [word_eq_assemble, word_eq_assemble, ← hop]
  exact bitAt_assemble_congr h hi

end BuilderCall

/-! ## The builders -/

/-- The word of a shifted register operation is a sum of six terms. -/
lemma RegisterOp.toNat_packShifted (op : RegisterOp) (rd rn rm : UInt8) (shift : Shift)
    (amount : UInt8) :
    (op.packShifted rd rn rm shift amount).toNat
      = op.raw.toNat * 2 ^ 52 + Field.rd.share rd.toNat + Field.rn.share rn.toNat
        + Field.rm.share rm.toNat + Field.shiftType.share shift.bits.toNat
        + Field.shiftAmount.share amount.toNat := by
  have h := BuilderCall.toNat_word
    (.registerShifted op rd.toUInt64 rn.toUInt64 rm.toUInt64 shift amount.toUInt64)
  have hraw : (Operation.register op).raw = op.raw := rfl
  -- A step by definition would have the kernel unfold the powers of two in the sums.
  simpa -implicitDefEqProofs only [BuilderCall.word, UInt8.toUInt8_toUInt64, BuilderCall.operation,
    hraw, Operation.format, Format.fields, List.tail_cons, List.map_cons, List.map_nil,
    BuilderCall.value, UInt8.toNat_toUInt64, List.sum_cons, List.sum_nil, Nat.add_zero,
    Nat.add_assoc] using h

/-- Without a shift, its two terms are zero. -/
lemma RegisterOp.toNat_pack (op : RegisterOp) (rd rn rm : UInt8) :
    (op.pack rd rn rm).toNat
      = op.raw.toNat * 2 ^ 52 + Field.rd.share rd.toNat + Field.rn.share rn.toNat
        + Field.rm.share rm.toNat := by
  have htype : Field.shiftType.share Shift.standard.bits.toNat = 0 := by decide
  have hamount : Field.shiftAmount.share (0 : UInt8).toNat = 0 := by decide
  rw [← packShifted_standard_zero, toNat_packShifted, htype, hamount]
  simp only [add_zero]

lemma ImmediateOp.toNat_pack (op : ImmediateOp) (rd rn : UInt8) (value : UInt64) :
    (op.pack rd rn value).toNat
      = op.raw.toNat * 2 ^ 52 + Field.rd.share rd.toNat + Field.rn.share rn.toNat
        + Field.immediate.share value.toNat := by
  have h := BuilderCall.toNat_word (.immediate op rd.toUInt64 rn.toUInt64 value)
  have hraw : (Operation.immediate op).raw = op.raw := rfl
  simpa -implicitDefEqProofs only [BuilderCall.word, UInt8.toUInt8_toUInt64, BuilderCall.operation,
    hraw, Operation.format, Format.fields, List.tail_cons, List.map_cons, List.map_nil,
    BuilderCall.value, UInt8.toNat_toUInt64, List.sum_cons, List.sum_nil, Nat.add_zero,
    Nat.add_assoc] using h

lemma BranchOp.toNat_pack (op : BranchOp) (offset : UInt64) :
    (op.pack offset).toNat = op.raw.toNat * 2 ^ 52 + Field.branchOffset.share offset.toNat :=
  BuilderCall.toNat_word (.branch op offset)

lemma MemoryOp.toNat_packMode (op : MemoryOp) (rd rn : UInt8) (mode : MemoryMode)
    (offset : UInt64) :
    (op.packMode rd rn mode offset).toNat
      = op.raw.toNat * 2 ^ 52 + Field.rd.share rd.toNat + Field.rn.share rn.toNat
        + Field.mode.share mode.bits.toNat + Field.memoryOffset.share offset.toNat := by
  have h := BuilderCall.toNat_word (.memory op rd.toUInt64 rn.toUInt64 mode offset)
  have hraw : (Operation.memory op).raw = op.raw := rfl
  simpa -implicitDefEqProofs only [BuilderCall.word, UInt8.toUInt8_toUInt64, BuilderCall.operation,
    hraw, Operation.format, Format.fields, List.tail_cons, List.map_cons, List.map_nil,
    BuilderCall.value, UInt8.toNat_toUInt64, List.sum_cons, List.sum_nil, Nat.add_zero,
    Nat.add_assoc] using h

/-- In the standard mode, the term of the mode is zero. -/
lemma MemoryOp.toNat_pack (op : MemoryOp) (rd rn : UInt8) (offset : UInt64) :
    (op.pack rd rn offset).toNat
      = op.raw.toNat * 2 ^ 52 + Field.rd.share rd.toNat + Field.rn.share rn.toNat
        + Field.memoryOffset.share offset.toNat := by
  have hmode : Field.mode.share MemoryMode.standard.bits.toNat = 0 := by decide
  rw [pack, toNat_packMode, hmode, Nat.add_zero]

/-! ## The readers -/

/-- What a reader of at most eight bits returns. -/
lemma Field.toNat_toUInt8_get {field : Field} (hwidth : field.width ≤ 8) (word : Word) :
    (field.get word).toUInt8.toNat = field.part word.toNat := by
  rw [← UInt8.toNat_toUInt64, toUInt64_toUInt8_get hwidth, toNat_get]

lemma Word.toNat_opcode_eq_part (word : Word) :
    (Word.opcode word).toNat = Field.opcode.part word.toNat := by
  rw [← UInt16.toNat_toUInt64, toUInt64_opcode, Field.toNat_get]

/-- **Builders, readers and field descriptions are one layout.**  The word of every builder is the
exact sum of its opcode and its operands, each cut down to the width of its field and moved up by
its shift; the two builders without a shift or a mode are those with zero in these fields.  Every
reader divides a word by the same power of two and takes the remainder for the same width.  So two
words built with one different operand agree on every bit outside the field of that operand. -/
theorem layout_is_positional :
    (∀ (op : RegisterOp) (rd rn rm : UInt8) (shift : Shift) (amount : UInt8),
        (op.packShifted rd rn rm shift amount).toNat
          = op.raw.toNat * 2 ^ 52 + Field.rd.share rd.toNat + Field.rn.share rn.toNat
            + Field.rm.share rm.toNat + Field.shiftType.share shift.bits.toNat
            + Field.shiftAmount.share amount.toNat)
      ∧ (∀ (op : RegisterOp) (rd rn rm : UInt8),
        (op.pack rd rn rm).toNat
            = op.raw.toNat * 2 ^ 52 + Field.rd.share rd.toNat + Field.rn.share rn.toNat
              + Field.rm.share rm.toNat
          ∧ op.pack rd rn rm = op.packShifted rd rn rm .lsl 0 ∧ Shift.lsl.bits = 0)
      ∧ (∀ (op : ImmediateOp) (rd rn : UInt8) (value : UInt64),
        (op.pack rd rn value).toNat
          = op.raw.toNat * 2 ^ 52 + Field.rd.share rd.toNat + Field.rn.share rn.toNat
            + Field.immediate.share value.toNat)
      ∧ (∀ (op : BranchOp) (offset : UInt64),
        (op.pack offset).toNat = op.raw.toNat * 2 ^ 52 + Field.branchOffset.share offset.toNat)
      ∧ (∀ (op : MemoryOp) (rd rn : UInt8) (mode : MemoryMode) (offset : UInt64),
        (op.packMode rd rn mode offset).toNat
          = op.raw.toNat * 2 ^ 52 + Field.rd.share rd.toNat + Field.rn.share rn.toNat
            + Field.mode.share mode.bits.toNat + Field.memoryOffset.share offset.toNat)
      ∧ (∀ (op : MemoryOp) (rd rn : UInt8) (offset : UInt64),
        (op.pack rd rn offset).toNat
            = op.raw.toNat * 2 ^ 52 + Field.rd.share rd.toNat + Field.rn.share rn.toNat
              + Field.memoryOffset.share offset.toNat
          ∧ op.pack rd rn offset = op.packMode rd rn .offset offset ∧ MemoryMode.offset.bits = 0)
      ∧ (∀ word : Word,
        (Word.opcode word).toNat = Field.opcode.part word.toNat
          ∧ (Word.rd word).toNat = Field.rd.part word.toNat
          ∧ (Word.rn word).toNat = Field.rn.part word.toNat
          ∧ (Word.rm word).toNat = Field.rm.part word.toNat
          ∧ (Word.mode word).toNat = Field.mode.part word.toNat
          ∧ (Word.shiftType word).toNat = Field.shiftType.part word.toNat
          ∧ (Word.shiftAmount word).toNat = Field.shiftAmount.part word.toNat
          ∧ (Word.immediate word).toNat = Field.immediate.part word.toNat
          ∧ (Word.branchOffset word).toNat = Field.branchOffset.part word.toNat
          ∧ (Word.memoryOffset word).toNat = Field.memoryOffset.part word.toNat)
      ∧ ∀ (call other : BuilderCall) (field : Field), call.operation = other.operation →
        (∀ kept ∈ call.operation.format.fields, kept ≠ field →
          call.value kept = other.value kept) →
        ∀ i, ¬field.Covers i → bitAt call.word i = bitAt other.word i := by
  refine ⟨RegisterOp.toNat_packShifted, fun op rd rn rm => ⟨op.toNat_pack rd rn rm, ?_, rfl⟩,
    ImmediateOp.toNat_pack, BranchOp.toNat_pack, MemoryOp.toNat_packMode,
    fun op rd rn offset => ⟨op.toNat_pack rd rn offset, rfl, rfl⟩, fun word => ?_, ?_⟩
  · exact (op.packShifted_standard_zero rd rn rm).symm
  · have hnarrow : ∀ field : Field, field.width ≤ 8 →
        (field.get word).toUInt8.toNat = field.part word.toNat :=
      fun field hwidth => Field.toNat_toUInt8_get hwidth word
    rw [Word.immediate_eq_get, Word.branchOffset_eq_get, Word.memoryOffset_eq_get]
    exact ⟨Word.toNat_opcode_eq_part word, hnarrow .rd (by decide), hnarrow .rn (by decide),
      hnarrow .rm (by decide), hnarrow .mode (by decide), hnarrow .shiftType (by decide),
      hnarrow .shiftAmount (by decide), Field.toNat_get .immediate word,
      Field.toNat_get .branchOffset word, Field.toNat_get .memoryOffset word⟩
  · intro call other field hop hkept i hi
    exact BuilderCall.bitAt_word_congr hop hkept hi

/-- Only the low bits of a register and of an amount are packed, and another amount changes nothing
above its own field. -/
theorem layout_is_positional_for_wide_operands :
    (RegisterOp.packShifted .add 31 255 7 .ror 255).toNat
        = RegisterOp.add.raw.toNat * 2 ^ 52 + 31 * 2 ^ 47 + 31 * 2 ^ 42 + 7 * 2 ^ 37 + 3 * 2 ^ 32
          + 63 * 2 ^ 26
      ∧ bitAt (BuilderCall.registerShifted .add 31 255 7 .ror 255).word 32
        = bitAt (BuilderCall.registerShifted .add 31 255 7 .ror 2).word 32 := by
  obtain ⟨hshifted, -, -, -, -, -, -, hbits⟩ := layout_is_positional
  refine ⟨hshifted .add 31 255 7 .ror 255, ?_⟩
  refine hbits (.registerShifted .add 31 255 7 .ror 255) (.registerShifted .add 31 255 7 .ror 2)
    .shiftAmount rfl ?_ 32 ?_
  · intro kept _ hne
    cases kept with
    | shiftAmount => contradiction
    | _ => rfl
  · rintro ⟨-, hhigh⟩
    exact absurd hhigh (by decide)

end WordCodec
