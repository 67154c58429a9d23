import WordCodec.Proofs.Encoding

/-!
# Payloads put together by hand

Decoding makes payloads in which opcode and operands belong together and every operand fits its
field.  A payload from elsewhere may break all of this at once, and then the order in which it is
checked shows in the error.

* `conversion_checks_in_order` — **the opcode first, then the format, then the mode.**  A payload
  that passes is taken over as it is.
* `decode_encode_eq_payload_iff` — the one wide operand decides whether packing and decoding what
  was taken over leads back to the payload.
-/

namespace WordCodec

namespace Instruction

variable {instruction : Instruction} {fields : MemoryFields}

/-- The memory operands of an instruction are in one of the five defined modes. -/
lemma mode_lt_of_payload (h : instruction.payload = .memory fields) :
    ¬(5 : UInt8) ≤ fields.mode := by
  cases instruction with
  | memory op rd rn mode offset =>
      obtain rfl : _ = fields := Payload.memory.inj h
      have hmode : MemoryMode.ofBits? mode.bits = some mode :=
        MemoryMode.ofBits?_eq_some_iff.mpr rfl
      rw [← MemoryMode.ofBits?_eq_none_iff, hmode]
      exact Option.some_ne_none mode
  | _ => cases h

/-- **A payload is packed without loss exactly when its wide operand fits.** -/
lemma decode_encode_eq_payload_iff (instruction : Instruction) :
    Word.decode instruction.encode = instruction.payload
      ↔ instruction.wideOperand.toNat < 2 ^ instruction.wideField.width := by
  rw [decode_encode, ← fits_iff_toNat_lt, ← normal_eq_self_iff]
  exact ⟨payload_injective, congrArg payload⟩

/-- **The checks of a payload, in their order.**  The opcode has to name an operation; this is the
only check that logs anything, and no opcode of more than twelve bits passes it.  The operation has
to be of the format of the operands, whatever the mode among them.  The mode of memory operands has
to be below 5.  A payload that passes is the payload of an instruction, and packing and decoding it
again keeps all of it but the high bits of its wide operand. -/
theorem conversion_checks_in_order (payload : Payload) :
    ((∀ op ∈ Operation.all, op.raw ≠ payload.opcode)
        ∧ ofPayload payload
          = ⟨.error (.unknownOpcode payload.opcode), [.noOperation payload.opcode]⟩)
      ∨ ∃ op : Operation, op.IsNamedBy payload.opcode ∧ payload.opcode ≤ 0xFFF
        ∧ ((op.format ≠ payload.format
            ∧ ofPayload payload
              = Checked.fail (.formatMismatch payload.opcode payload.format op.format))
          ∨ (op.format = payload.format
            ∧ ∃ fields, payload = .memory fields ∧ (5 : UInt8) ≤ fields.mode
              ∧ ofPayload payload = Checked.fail (.invalidMemoryMode fields.mode))
          ∨ (op.format = payload.format
            ∧ (¬∃ fields, payload = .memory fields ∧ (5 : UInt8) ≤ fields.mode)
            ∧ ∃ instruction : Instruction, ofPayload payload = Checked.succeed instruction
              ∧ instruction.operation = op ∧ instruction.payload = payload
              ∧ Word.decode instruction.encode = instruction.normal.payload
              ∧ (Word.decode instruction.encode = payload
                ↔ instruction.wideOperand.toNat < 2 ^ instruction.wideField.width))) := by
  obtain ⟨h, hread⟩ | ⟨op, h, hformat, hread⟩ | ⟨op, fields, h, hfields, hmode, hread⟩
    | ⟨instruction, rfl, hread⟩ := ofPayload_cases payload
  · exact .inl ⟨Operation.ofRaw?_eq_none_iff.mp h, hread⟩
  · have hraw : op.raw = payload.opcode := Operation.ofRaw?_eq_some_iff.mp h
    exact .inr ⟨op, Operation.isNamedBy_of_raw_eq hraw, hraw ▸ op.raw_le, .inl ⟨hformat, hread⟩⟩
  · have hraw : (Operation.memory op).raw = payload.opcode := Operation.ofRaw?_eq_some_iff.mp h
    have hbits : (5 : UInt8) ≤ fields.mode := MemoryMode.ofBits?_eq_none_iff.mp hmode
    have hformat : (Operation.memory op).format = payload.format := by
      rw [hfields]
      rfl
    exact .inr ⟨_, Operation.isNamedBy_of_raw_eq hraw, hraw ▸ Operation.raw_le _,
      .inr (.inl ⟨hformat, fields, hfields, hbits, hread⟩)⟩
  · have hraw : instruction.operation.raw = instruction.payload.opcode :=
      instruction.opcode_payload.symm
    have hmode : ¬∃ fields, instruction.payload = .memory fields ∧ (5 : UInt8) ≤ fields.mode := by
      rintro ⟨fields, hfields, hbits⟩
      exact mode_lt_of_payload hfields hbits
    exact .inr ⟨_, Operation.isNamedBy_of_raw_eq hraw, hraw ▸ Operation.raw_le _,
      .inr (.inr ⟨instruction.format_payload.symm, hmode, instruction, hread, rfl, rfl,
        instruction.decode_encode, instruction.decode_encode_eq_payload_iff⟩)⟩

/-- Memory operands under the opcode of a branch are refused as such, before their mode is. -/
example : (ofPayload (.memory ⟨0x980, .ofBits 0, .ofBits 1, 200, 0⟩)).result
    = .error (.formatMismatch 0x980 .memory .branch) := rfl

end Instruction

end WordCodec
