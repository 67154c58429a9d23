import WordCodec.Instruction
import WordCodec.Proofs.Checked
import WordCodec.Proofs.Decoding
import WordCodec.Proofs.Opcodes

/-!
# Instructions and their words

An instruction has a payload, `Instruction.payload`: the opcode of its operation and its operands,
as wide as they are.  Everything about instructions goes through it.

* `encode_eq_word` — the word of an instruction is the word of its payload, so the laws of fields
  apply to it.
* `ofPayload_cases` — the outcomes of reading a payload, which need not be that of an instruction.
* `ofPayload_eq_ok_iff` — the payload is the **only** one that the instruction can be read from.
  Reading an instruction takes the operands over and changes none.

Put together with what decoding keeps (`Decoding.lean`), the two directions of the round trip are
short.  An instruction comes back from its word with its wide operand cut down, and a word comes
back from its instruction without its stray bits.
-/

namespace WordCodec

/-- A code names an addressing mode exactly when it is the code of that mode. -/
lemma MemoryMode.ofBits?_eq_some_iff {bits : UInt8} {mode : MemoryMode} :
    ofBits? bits = some mode ↔ mode.bits = bits := by
  constructor
  · intro h
    refine UInt8.toNat_inj.mp ?_
    rw [ofBits?] at h
    split at h <;> rename_i hbits
    -- the five defined codes; the last case is that of all others
    any_goals
      rw [← Option.some.inj h, hbits]
      rfl
    exact absurd h (by simp)
  · rintro rfl
    cases mode <;> rfl

lemma MemoryMode.ofBits_eq_ok_iff {bits : UInt8} {mode : MemoryMode} :
    ofBits bits = .ok mode ↔ mode.bits = bits := by
  rw [← ofBits?_eq_some_iff, ofBits]
  cases ofBits? bits <;> simp

/-- The codes from 5 on name no addressing mode. -/
lemma MemoryMode.ofBits?_eq_none_iff {bits : UInt8} : ofBits? bits = none ↔ 5 ≤ bits := by
  constructor
  · intro h
    by_contra hlt
    have hbits : bits.toNat < 5 := UInt8.lt_iff_toNat_lt.mp (UInt8.not_le.mp hlt)
    rw [ofBits?] at h
    interval_cases bits.toNat <;> cases h
  · intro h
    cases hmode : ofBits? bits with
    | none => rfl
    | some mode =>
        have hlt : mode.bits < 5 := by cases mode <;> decide
        rw [ofBits?_eq_some_iff.mp hmode] at hlt
        exact absurd hlt (UInt8.not_lt.mpr h)

lemma MemoryMode.ofBits_of_undefined {bits : UInt8} (h : ofBits? bits = none) :
    ofBits bits = .error (.invalidMemoryMode bits) := by
  rw [ofBits, h]

lemma MemoryMode.toNat_bits_lt (mode : MemoryMode) : mode.bits.toNat < 2 ^ 3 := by
  cases mode <;> decide

namespace Instruction

/-! ## The payload of an instruction -/

/-- The opcode and the operands of an instruction, none of them cut down. -/
def payload : Instruction → Payload
  | register op rd rn rm shift amount => .register ⟨op.raw, rd, rn, rm, shift, amount⟩
  | immediate op rd rn value => .immediate ⟨op.raw, rd, rn, value⟩
  | branch op offset => .branch ⟨op.raw, offset⟩
  | memory op rd rn mode offset => .memory ⟨op.raw, rd, rn, mode.bits, offset⟩

lemma opcode_payload (instruction : Instruction) :
    instruction.payload.opcode = instruction.operation.raw := by
  cases instruction <;> rfl

lemma format_payload (instruction : Instruction) :
    instruction.payload.format = instruction.operation.format := by
  cases instruction <;> rfl

lemma operation?_payload (instruction : Instruction) :
    instruction.payload.operation? = some instruction.operation := by
  rw [Payload.operation?, opcode_payload, Operation.ofRaw?_raw]

lemma wellTagged_payload (instruction : Instruction) : instruction.payload.WellTagged := by
  refine ⟨?_, ?_⟩
  · rw [opcode_payload]
    exact instruction.operation.raw_le
  · rw [opcode_payload, format_payload, Operation.ofOpcode_raw]

/-- Cutting an instruction down cuts its payload down; the code of a defined addressing mode is
never too wide. -/
lemma payload_normal (instruction : Instruction) :
    instruction.normal.payload = instruction.payload.normal := by
  cases instruction with
  | memory op rd rn mode offset => cases mode <;> rfl
  | _ => rfl

/-- **The builders of words put fields together**, each operand in the field of its name. -/
lemma encode_eq_word (instruction : Instruction) : instruction.encode = instruction.payload.word := by
  cases instruction with
  | register op rd rn rm shift amount =>
      simp only [encode, RegisterOp.packShifted, RegisterOp.pack, opcodeBits, registerBits,
        Payload.word, payload, Payload.format, Format.fields, assemble_cons, assemble_nil,
        UInt64.or_assoc, UInt64.or_zero]
      rfl
  | immediate op rd rn value =>
      simp only [encode, ImmediateOp.pack, opcodeBits, registerBits, Payload.word, payload,
        Payload.format, Format.fields, assemble_cons, assemble_nil, UInt64.or_assoc,
        UInt64.or_zero]
      rfl
  | branch op offset =>
      simp only [encode, BranchOp.pack, opcodeBits, Payload.word, payload, Payload.format,
        Format.fields, assemble_cons, assemble_nil, UInt64.or_zero]
      rfl
  | memory op rd rn mode offset =>
      simp only [encode, MemoryOp.packMode, opcodeBits, registerBits, Payload.word, payload,
        Payload.format, Format.fields, assemble_cons, assemble_nil, UInt64.or_assoc,
        UInt64.or_zero]
      rfl

/-! ## Reading an instruction from a payload -/

/-- An instruction is read from its own payload, and nothing is logged. -/
lemma ofPayload_payload (instruction : Instruction) :
    ofPayload instruction.payload = Checked.succeed instruction := by
  rw [ofPayload, operation?_payload]
  cases instruction with
  | memory op rd rn mode offset =>
      have hmode : MemoryMode.ofBits mode.bits = .ok mode := MemoryMode.ofBits_eq_ok_iff.mpr rfl
      simp only [operation, payload, hmode]
      rfl
  | _ => rfl

section

variable {payload : Payload}

lemma ofPayload_of_unknown (h : payload.operation? = none) :
    ofPayload payload
      = ⟨.error (.unknownOpcode payload.opcode), [.noOperation payload.opcode]⟩ := by
  rw [ofPayload, h]
  rfl

/-- An operation of another format is refused before any operand is looked at. -/
lemma ofPayload_of_mismatch {op : Operation} (h : payload.operation? = some op)
    (hformat : op.format ≠ payload.format) :
    ofPayload payload
      = Checked.fail (.formatMismatch payload.opcode payload.format op.format) := by
  rw [ofPayload, h]
  cases op <;> cases payload <;> first | rfl | exact absurd rfl hformat

lemma ofPayload_of_undefined_mode {op : MemoryOp} {fields : MemoryFields}
    (h : (Payload.memory fields).operation? = some (.memory op))
    (hmode : MemoryMode.ofBits? fields.mode = none) :
    ofPayload (.memory fields) = Checked.fail (.invalidMemoryMode fields.mode) := by
  rw [ofPayload, h]
  simp only [MemoryMode.ofBits_of_undefined hmode]
  rfl

end

/-- **The four outcomes.**  A payload has no operation, or one of another format, or a memory
operation in an undefined mode, or it is the payload of an instruction. -/
lemma ofPayload_cases (payload : Payload) :
    (payload.operation? = none
        ∧ ofPayload payload
          = ⟨.error (.unknownOpcode payload.opcode), [.noOperation payload.opcode]⟩)
      ∨ (∃ op, payload.operation? = some op ∧ op.format ≠ payload.format
        ∧ ofPayload payload
          = Checked.fail (.formatMismatch payload.opcode payload.format op.format))
      ∨ (∃ op fields, payload.operation? = some (.memory op) ∧ payload = .memory fields
        ∧ MemoryMode.ofBits? fields.mode = none
        ∧ ofPayload payload = Checked.fail (.invalidMemoryMode fields.mode))
      ∨ ∃ instruction : Instruction, instruction.payload = payload
        ∧ ofPayload payload = Checked.succeed instruction := by
  cases h : payload.operation? with
  | none => exact .inl ⟨rfl, ofPayload_of_unknown h⟩
  | some op =>
      have hraw : op.raw = payload.opcode := Operation.ofRaw?_eq_some_iff.mp h
      by_cases hformat : op.format = payload.format
      · refine .inr (.inr ?_)
        -- with the formats equal, four of the sixteen pairs of operation and payload are left
        cases op with
        | register op =>
            cases payload with
            | register fields =>
                obtain ⟨opcode, rd, rn, rm, shift, amount⟩ := fields
                obtain rfl : op.raw = opcode := hraw
                exact .inr ⟨_, rfl, ofPayload_payload (register op rd rn rm shift amount)⟩
            | _ => cases hformat
        | immediate op =>
            cases payload with
            | immediate fields =>
                obtain ⟨opcode, rd, rn, value⟩ := fields
                obtain rfl : op.raw = opcode := hraw
                exact .inr ⟨_, rfl, ofPayload_payload (immediate op rd rn value)⟩
            | _ => cases hformat
        | branch op =>
            cases payload with
            | branch fields =>
                obtain ⟨opcode, offset⟩ := fields
                obtain rfl : op.raw = opcode := hraw
                exact .inr ⟨_, rfl, ofPayload_payload (branch op offset)⟩
            | _ => cases hformat
        | memory op =>
            cases payload with
            | memory fields =>
                cases hmode : MemoryMode.ofBits? fields.mode with
                | none =>
                    exact .inl
                      ⟨op, fields, rfl, rfl, hmode, ofPayload_of_undefined_mode h hmode⟩
                | some mode =>
                    obtain ⟨opcode, rd, rn, bits, offset⟩ := fields
                    obtain rfl : op.raw = opcode := hraw
                    obtain rfl : mode.bits = bits := MemoryMode.ofBits?_eq_some_iff.mp hmode
                    exact .inr ⟨_, rfl, ofPayload_payload (memory op rd rn mode offset)⟩
            | _ => cases hformat
      · exact .inr (.inl ⟨op, rfl, hformat, ofPayload_of_mismatch h hformat⟩)

/-- **An instruction is read from no payload but its own.** -/
lemma payload_of_ofPayload {payload : Payload} {instruction : Instruction}
    (h : (ofPayload payload).result = .ok instruction) : instruction.payload = payload := by
  obtain ⟨-, hread⟩ | ⟨op, -, -, hread⟩ | ⟨op, fields, -, -, -, hread⟩ | ⟨other, hpayload, hread⟩ :=
    ofPayload_cases payload
  · rw [hread] at h
    cases h
  · rw [hread] at h
    cases h
  · rw [hread] at h
    cases h
  · rw [hread] at h
    obtain rfl : other = instruction := Except.ok.inj h
    exact hpayload

lemma ofPayload_eq_ok_iff {payload : Payload} {instruction : Instruction} :
    (ofPayload payload).result = .ok instruction ↔ instruction.payload = payload := by
  constructor
  · exact payload_of_ofPayload
  · rintro rfl
    rw [ofPayload_payload]
    rfl

/-- A payload says everything about its instruction. -/
lemma payload_injective {instruction other : Instruction}
    (h : instruction.payload = other.payload) : instruction = other := by
  have hread : (ofPayload other.payload).result = .ok instruction := ofPayload_eq_ok_iff.mpr h
  rw [ofPayload_payload] at hread
  exact (Except.ok.inj hread).symm

/-! ## From instructions to words and back -/

/-- What cutting down takes away is not packed in the first place. -/
lemma encode_normal (instruction : Instruction) :
    instruction.normal.encode = instruction.encode := by
  have hopcode : instruction.payload.opcode ≤ 0xFFF := instruction.wellTagged_payload.1
  rw [encode_eq_word, encode_eq_word, payload_normal, Payload.word, Payload.word,
    Payload.format_normal]
  refine assemble_congr fun field hfield => ?_
  rw [Payload.operand_normal hopcode hfield, truncate_truncate]

lemma decode_encode (instruction : Instruction) :
    Word.decode instruction.encode = instruction.normal.payload := by
  rw [encode_eq_word, Payload.decode_word instruction.wellTagged_payload, payload_normal]

lemma ofWord_encode (instruction : Instruction) :
    ofWord instruction.encode = Checked.succeed instruction.normal := by
  rw [ofWord, decode_encode, ofPayload_payload]

/-- **Decoding undoes encoding**, and all that is lost are the high bits of the one wide operand.
So two instructions share a word exactly when they differ in nothing else. -/
theorem decoding_undoes_encoding :
    (∀ instruction : Instruction,
        ofWord instruction.encode = Checked.succeed instruction.normal)
      ∧ ∀ instruction other : Instruction,
        instruction.encode = other.encode ↔ instruction.normal = other.normal := by
  refine ⟨ofWord_encode, fun instruction other => ⟨fun h => ?_, fun h => ?_⟩⟩
  · have hsucceed : Checked.succeed instruction.normal = Checked.succeed other.normal := by
      rw [← ofWord_encode, h, ofWord_encode]
    exact Except.ok.inj (congrArg Checked.result hsucceed)
  · rw [← encode_normal, h, encode_normal]

end Instruction

end WordCodec
