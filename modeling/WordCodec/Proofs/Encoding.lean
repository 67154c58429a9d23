import WordCodec.Encoder
import WordCodec.Proofs.RoundTrip

/-!
# The checked encoder and the builders

The checked encoder looks at the operands one after another.  What it makes of an operand depends
on the policy, but **the word does not**: an operand is packed as it stands or cut down first, and
both give the same field.  So the encoder is the builder with checks in front of it.

* `accept_of_fits` — an operand that fits is accepted in silence under every policy.
* `accept_bind`, `acceptNarrow_bind` — whatever packs the accepted operand may as well pack the
  given one.
* `encode_eq_accept` — of an instruction only one operand is ever at issue, `wideOperand`, and the
  encoder is the check of that operand followed by the word of the instruction.
-/

namespace WordCodec

/-- Cutting a byte's worth of bits down before or after it becomes a byte is the same. -/
lemma truncate_toUInt8 (value : UInt64) {width : ℕ} (hwidth : width ≤ 8) :
    truncate value.toUInt8.toUInt64 width = truncate value width := by
  refine UInt64.toNat_inj.mp ?_
  rw [toNat_truncate, toNat_truncate, UInt8.toNat_toUInt64, UInt64.toNat_toUInt8,
    Nat.mod_mod_of_dvd _ (Nat.pow_dvd_pow 2 hwidth)]

namespace Encoder

variable {α : Type} (encoder : Encoder) {field : Field}

/-! ## One operand -/

/-- **An operand that fits is accepted in silence**, whatever the policy. -/
lemma accept_of_fits {value : UInt64} (h : fits value field.width = true) :
    encoder.accept field value = Checked.succeed value := by
  have htruncate : truncate value field.width = value := (fits_iff_truncate_eq _ _).mp h
  rw [accept]
  cases encoder.policy with
  | reject => simp only [checkOperand, h, if_true]; rfl
  | truncate => simp only [htruncate, ne_eq, not_true_eq_false, if_false]; rfl

lemma acceptNarrow_of_fits {narrow : UInt8} (h : fits narrow.toUInt64 field.width = true) :
    encoder.acceptNarrow field narrow.toUInt64 = Checked.succeed narrow := by
  rw [acceptNarrow, encoder.accept_of_fits h, Checked.succeed_bind, UInt8.toUInt8_toUInt64]
  rfl

/-- **What the policy does to an operand does not reach the word.**  If `next` makes the same of an
operand and of its low bits, it may take the operand as it was given. -/
lemma accept_bind {value : UInt64} {next : UInt64 → Checked α}
    (h : next (truncate value field.width) = next value) :
    encoder.accept field value >>= next = encoder.accept field value >>= fun _ => next value := by
  rw [accept]
  cases encoder.policy with
  | reject =>
      by_cases hfits : fits value field.width = true
      · simp only [checkOperand, hfits, if_true]
        rfl
      · simp only [checkOperand, hfits]
        rfl
  | truncate =>
      by_cases hkept : truncate value field.width ≠ value
      · simp only [if_pos hkept, bind_assoc, pure_bind, h]
      · simp only [if_neg hkept, pure_bind, h]

lemma acceptNarrow_bind (hwidth : field.width ≤ 8) {value : UInt64} {next : UInt8 → Checked α}
    (h : ∀ narrow narrow' : UInt8, truncate narrow.toUInt64 field.width
      = truncate narrow'.toUInt64 field.width → next narrow = next narrow') :
    encoder.acceptNarrow field value >>= next
      = encoder.accept field value >>= fun _ => next value.toUInt8 := by
  rw [acceptNarrow, bind_assoc]
  have hnext : next (truncate value field.width).toUInt8 = next value.toUInt8 := by
    refine h _ _ ?_
    rw [truncate_toUInt8 _ hwidth, truncate_toUInt8 _ hwidth, truncate_truncate]
  exact encoder.accept_bind hnext

end Encoder

/-! ## The one operand that may not fit -/

namespace Instruction

/-- The field of the operand that the format holds only the low bits of. -/
def wideField : Instruction → Field
  | register .. => .shiftAmount
  | immediate .. => .immediate
  | branch .. => .branchOffset
  | memory .. => .memoryOffset

/-- The operand of an instruction that may be wider than its field. -/
def wideOperand : Instruction → UInt64
  | register _ _ _ _ _ amount => amount.toUInt64
  | immediate _ _ _ value => value
  | branch _ offset => offset
  | memory _ _ _ _ offset => offset

/-- An instruction is left as it is exactly when its wide operand fits. -/
lemma normal_eq_self_iff (instruction : Instruction) :
    instruction.normal = instruction
      ↔ fits instruction.wideOperand instruction.wideField.width = true := by
  rw [fits_iff_toNat_lt]
  cases instruction with
  | register op rd rn rm shift amount =>
      simp only [normal, register.injEq, true_and, ← UInt8.toNat_inj, UInt8.toNat_mod]
      exact Nat.mod_eq_iff_lt (by decide)
  | immediate op rd rn value =>
      simp only [normal, immediate.injEq, true_and, ← UInt64.toNat_inj, UInt64.toNat_mod]
      exact Nat.mod_eq_iff_lt (by decide)
  | branch op offset =>
      simp only [normal, branch.injEq, true_and, ← UInt64.toNat_inj, UInt64.toNat_mod]
      exact Nat.mod_eq_iff_lt (by decide)
  | memory op rd rn mode offset =>
      simp only [normal, memory.injEq, true_and, ← UInt64.toNat_inj, UInt64.toNat_mod]
      exact Nat.mod_eq_iff_lt (by decide)

end Instruction

namespace Encoder

lemma acceptNarrow_register (encoder : Encoder) {field : Field} (hwidth : field.width = 5)
    (register : Register) :
    encoder.acceptNarrow field register.bits.toUInt64 = Checked.succeed register.bits := by
  refine encoder.acceptNarrow_of_fits ?_
  rw [fits_iff_truncate_eq, hwidth, Register.truncate_bits]

/-- **The encoder is the builder behind a check of the wide operand.** -/
lemma encode_eq_accept (encoder : Encoder) (instruction : Instruction) :
    encoder.encode instruction
      = encoder.accept instruction.wideField instruction.wideOperand
        >>= fun _ => Checked.succeed instruction.encode := by
  cases instruction with
  | register op rd rn rm shift amount =>
      have hpack : ∀ narrow narrow' : UInt8, truncate narrow.toUInt64 Field.shiftAmount.width
          = truncate narrow'.toUInt64 Field.shiftAmount.width →
          op.packShifted rd.bits rn.bits rm.bits shift narrow
            = op.packShifted rd.bits rn.bits rm.bits shift narrow' := by
        intro narrow narrow' h
        rw [RegisterOp.packShifted, RegisterOp.packShifted, Field.put_congr h]
      rw [encode, registerShifted, acceptNarrow_register encoder rfl,
        Checked.succeed_bind, acceptNarrow_register encoder rfl, Checked.succeed_bind,
        acceptNarrow_register encoder rfl, Checked.succeed_bind]
      rw [encoder.acceptNarrow_bind (by decide) fun _ _ h => congrArg _ (hpack _ _ h)]
      rw [UInt8.toUInt8_toUInt64]
      rfl
  | immediate op rd rn value =>
      rw [encode, immediate, acceptNarrow_register encoder rfl,
        Checked.succeed_bind, acceptNarrow_register encoder rfl, Checked.succeed_bind]
      refine encoder.accept_bind ?_
      rw [ImmediateOp.pack, ImmediateOp.pack, Field.put_truncate]
  | branch op offset =>
      refine encoder.accept_bind ?_
      rw [BranchOp.pack, BranchOp.pack, Field.put_truncate]
  | memory op rd rn mode offset =>
      rw [encode, memory, acceptNarrow_register encoder rfl,
        Checked.succeed_bind, acceptNarrow_register encoder rfl, Checked.succeed_bind]
      refine encoder.accept_bind ?_
      rw [MemoryOp.packMode, MemoryOp.packMode, Field.put_truncate]

/-- An instruction with nothing to cut down is encoded in silence. -/
lemma encode_of_normal (encoder : Encoder) {instruction : Instruction}
    (h : instruction.normal = instruction) :
    encoder.encode instruction = Checked.succeed instruction.encode := by
  rw [encode_eq_accept, accept_of_fits encoder (instruction.normal_eq_self_iff.mp h),
    Checked.succeed_bind]

end Encoder

end WordCodec
