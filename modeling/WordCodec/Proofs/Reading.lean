import WordCodec.Proofs.RoundTrip

/-!
# What a word holds

The opcode of a word names an operation or it does not.  If it does, the operation is of the format
by which the word is decoded, because an operation's opcode carries the tag of its format.  So the
format never has to be looked at again once the operation is known, and `Instruction.ofWord` has
three outcomes only (`ofWord_cases`).

* `Word.operation?` — the operation of a word.
* `decode_of_register` and its like — the payload of a word whose operation is known.
* `Word.HasUndefinedMode` — the one way in which a word with an operation holds no instruction.
-/

namespace WordCodec

/-- The value of a field does not grow on its way through a byte. -/
lemma Field.toNat_toUInt8_get_lt (field : Field) (word : Word) :
    (field.get word).toUInt8.toNat < 2 ^ field.width := by
  rw [UInt64.toNat_toUInt8]
  exact lt_of_le_of_lt (Nat.mod_le _ _) (field.toNat_get_lt word)

/-- Two values of a register field name the same register only if they are equal. -/
lemma Register.ofBits_inj {bits bits' : UInt8} (h : bits.toNat < 2 ^ 5) (h' : bits'.toNat < 2 ^ 5) :
    ofBits bits = ofBits bits' ↔ bits = bits' := by
  refine ⟨fun hregister => ?_, congrArg ofBits⟩
  rw [← bits_ofBits h, hregister, bits_ofBits h']

lemma Shift.ofBits_inj {bits bits' : UInt8} (h : bits.toNat < 2 ^ 2) (h' : bits'.toNat < 2 ^ 2) :
    ofBits bits = ofBits bits' ↔ bits = bits' := by
  refine ⟨fun hshift => ?_, congrArg ofBits⟩
  rw [← bits_ofBits h, hshift, bits_ofBits h']

namespace Word

/-! ## The opcode and the operation -/

/-- **The operation of a word**, if its opcode names one. -/
def operation? (word : Word) : Option Operation := Operation.ofRaw? (opcode word)

lemma operation?_decode (word : Word) : (decode word).operation? = operation? word := by
  rw [Payload.operation?, Payload.opcode_decode, operation?]

/-- The opcode is what stands above the low 52 bits. -/
lemma opcode_eq_shiftRight (word : Word) : opcode word = (word >>> 52).toUInt16 := by
  have hshift : (word >>> 52).toNat < 2 ^ 12 := by
    have hword := word.toNat_lt
    rw [UInt64.toNat_shiftRight, Nat.shiftRight_eq_div_pow]
    exact Nat.div_lt_of_lt_mul hword
  have hextract : Field.opcode.get word = truncate (word >>> 52) 12 := rfl
  rw [opcode, hextract, truncate_of_lt hshift]

lemma opcode_le (word : Word) : opcode word ≤ 0xFFF := by
  have hlt : (Field.opcode.get word).toNat < 2 ^ 12 := Field.opcode.toNat_get_lt word
  refine UInt16.le_iff_toNat_le.mpr ?_
  rw [opcode, UInt64.toNat_toUInt16]
  exact Nat.le_of_lt_succ (lt_of_le_of_lt (Nat.mod_le _ _) hlt)

variable {word : Word}

lemma format_of_operation {op : Operation} (h : operation? word = some op) :
    format word = op.format := by
  rw [format, ← Operation.ofRaw?_eq_some_iff.mp h, Operation.ofOpcode_raw]

/-! ## The payload of a word whose operation is known -/

/-- The fields of a word as the register format divides it. -/
def registerFields (word : Word) : RegisterFields where
  opcode := opcode word
  rd := Register.ofBits (rd word)
  rn := Register.ofBits (rn word)
  rm := Register.ofBits (rm word)
  shift := Shift.ofBits (shiftType word)
  amount := shiftAmount word

/-- The fields of a word as the immediate format divides it. -/
def immediateFields (word : Word) : ImmediateFields where
  opcode := opcode word
  rd := Register.ofBits (rd word)
  rn := Register.ofBits (rn word)
  immediate := immediate word

/-- The fields of a word as the branch format divides it. -/
def branchFields (word : Word) : BranchFields where
  opcode := opcode word
  offset := branchOffset word

/-- The fields of a word as the memory format divides it. -/
def memoryFields (word : Word) : MemoryFields where
  opcode := opcode word
  rd := Register.ofBits (rd word)
  rn := Register.ofBits (rn word)
  mode := mode word
  offset := memoryOffset word

lemma decode_of_register {op : RegisterOp} (h : operation? word = some (.register op)) :
    decode word = .register (registerFields word) := by
  rw [decode, format_of_operation h]
  rfl

lemma decode_of_immediate {op : ImmediateOp} (h : operation? word = some (.immediate op)) :
    decode word = .immediate (immediateFields word) := by
  rw [decode, format_of_operation h]
  rfl

lemma decode_of_branch {op : BranchOp} (h : operation? word = some (.branch op)) :
    decode word = .branch (branchFields word) := by
  rw [decode, format_of_operation h]
  rfl

lemma decode_of_memory {op : MemoryOp} (h : operation? word = some (.memory op)) :
    decode word = .memory (memoryFields word) := by
  rw [decode, format_of_operation h]
  rfl

/-- Whether a word holds a memory operation, but no addressing mode for it. -/
def HasUndefinedMode (word : Word) : Prop :=
  (∃ op, operation? word = some (.memory op)) ∧ MemoryMode.ofBits? (mode word) = none

lemma not_hasUndefinedMode {op : Operation} (h : operation? word = some op)
    (hop : ∀ other, op ≠ .memory other) : ¬HasUndefinedMode word := by
  rintro ⟨⟨other, hother⟩, -⟩
  exact hop other (Option.some.inj (h.symm.trans hother))

end Word

namespace Instruction

variable {word : Word}

/-! ## The instruction of a word -/

/-- **A word holds no operation, or a memory operation in an undefined mode, or an instruction.** -/
lemma ofWord_cases (word : Word) :
    (word.operation? = none
        ∧ ofWord word = ⟨.error (.unknownOpcode word.opcode), [.noOperation word.opcode]⟩)
      ∨ (word.HasUndefinedMode ∧ ofWord word = ⟨.error (.invalidMemoryMode word.mode), []⟩)
      ∨ ∃ instruction : Instruction, word.operation? = some instruction.operation
        ∧ ¬word.HasUndefinedMode ∧ ofWord word = Checked.succeed instruction := by
  obtain ⟨h, hread⟩ | ⟨op, h, hformat, -⟩ | ⟨op, fields, h, hfields, hmode, hread⟩
    | ⟨instruction, hpayload, hread⟩ := ofPayload_cases (Word.decode word)
  · rw [Word.operation?_decode] at h
    rw [Payload.opcode_decode] at hread
    exact .inl ⟨h, hread⟩
  · -- the opcode that names the operation also selected the format
    rw [Word.operation?_decode] at h
    rw [Payload.format_decode, Word.format_of_operation h] at hformat
    exact absurd rfl hformat
  · rw [Word.operation?_decode] at h
    rw [Word.decode_of_memory h] at hfields
    obtain rfl : word.memoryFields = fields := Payload.memory.inj hfields
    exact .inr (.inl ⟨⟨⟨op, h⟩, hmode⟩, hread⟩)
  · refine .inr (.inr ⟨instruction, ?_, ?_, hread⟩)
    · rw [← Word.operation?_decode, ← hpayload, operation?_payload]
    · rintro ⟨⟨op, h⟩, hmode⟩
      have hdecode := Word.decode_of_memory h
      rw [← Word.operation?_decode, hdecode] at h
      rw [hdecode, ofPayload_of_undefined_mode h hmode] at hread
      cases hread

lemma result_eq_unknownOpcode_iff {opcode : UInt16} :
    (ofWord word).result = .error (.unknownOpcode opcode)
      ↔ word.operation? = none ∧ opcode = word.opcode := by
  obtain ⟨h, hread⟩ | ⟨⟨⟨op, h⟩, -⟩, hread⟩ | ⟨instruction, h, -, hread⟩ := ofWord_cases word
  · simp [h, hread, eq_comm]
  · simp [h, hread]
  · simp [h, hread, Checked.succeed]

lemma result_eq_invalidMemoryMode_iff {bits : UInt8} :
    (ofWord word).result = .error (.invalidMemoryMode bits)
      ↔ word.HasUndefinedMode ∧ bits = word.mode := by
  obtain ⟨h, hread⟩ | ⟨h, hread⟩ | ⟨instruction, -, h, hread⟩ := ofWord_cases word
  · simp [hread, Word.HasUndefinedMode, h]
  · simp [h, hread, eq_comm]
  · simp [h, hread, Checked.succeed]

end Instruction

end WordCodec
