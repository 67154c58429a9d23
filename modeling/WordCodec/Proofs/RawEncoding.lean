import WordCodec.Proofs.BuilderCalls
import WordCodec.Proofs.Formats
import WordCodec.Proofs.Reencoding

/-!
# Opcodes with operands

`Encoder.encodeRaw` takes an opcode and operands that need not belong together.  Two checks stand in
front of the builders: the tag of the opcode has to select the format of the operands, and the
opcode has to name an operation.  The tag is looked at first, and of the opcode only that; whether
the opcode is too wide shows in the second check.

* `Operation.call?` — the call of a checked builder that an operation and operands make together.
* `encodeRaw_of_call?` — what passes both checks **is that call**, refusals and log included.

Such a call says nothing of a shift or an addressing mode.  So the opcode and the operands of a
decoded word, `Payload.operands`, lead back to the word only up to these fields.

* `Word.carriedPart` — **what is left of the word**, and `encodeRaw_decode` says that nothing in it
  is ever refused.
* `carriedPart_eq_definedPart_iff` — when the fields that were left out were clear, and only then,
  this is what packing the instruction of the word leaves of it.
-/

namespace WordCodec

/-- **The typed call** for an operation and operands of its format, without shift and in the
standard addressing mode. -/
def Operation.call? : Operation → Operands → Option BuilderCall
  | .register op, .register rd rn rm => some (.register op rd rn rm)
  | .immediate op, .immediate rd rn value => some (.immediate op rd rn value)
  | .branch op, .branch offset => some (.branch op offset)
  | .memory op, .memory rd rn offset => some (.memory op rd rn .offset offset)
  | _, _ => none

/-- An operation and operands make a call together exactly when they are of one format. -/
lemma Operation.isSome_call?_iff {op : Operation} {operands : Operands} :
    (op.call? operands).isSome = true ↔ op.format = operands.format := by
  cases op <;> cases operands <;> simp [call?, Operation.format, Operands.format]

lemma Operation.operation_of_call? {op : Operation} {operands : Operands} {call : BuilderCall}
    (h : op.call? operands = some call) : call.operation = op := by
  cases op <;> cases operands <;> cases h <;> rfl

lemma checkFormat_of_eq {opcode : UInt16} {expected : Format}
    (h : Format.ofOpcode opcode = expected) : checkFormat opcode expected = .ok expected := by
  rw [checkFormat, if_pos h, h]

lemma checkFormat_of_ne {opcode : UInt16} {expected : Format}
    (h : Format.ofOpcode opcode ≠ expected) :
    checkFormat opcode expected
      = .error (.formatMismatch opcode expected (Format.ofOpcode opcode)) := by
  rw [checkFormat, if_neg h]

namespace Encoder

variable (encoder : Encoder) {opcode : UInt16} {operands : Operands}

/-! ## The two checks -/

lemma encodeRaw_of_mismatch (h : Format.ofOpcode opcode ≠ operands.format) :
    encoder.encodeRaw opcode operands
      = Checked.fail (.formatMismatch opcode operands.format (Format.ofOpcode opcode)) := by
  rw [encodeRaw, checkFormat_of_ne h]
  rfl

lemma encodeRaw_of_unknown (hformat : Format.ofOpcode opcode = operands.format)
    (h : Operation.ofRaw? opcode = none) :
    encoder.encodeRaw opcode operands = Checked.fail (.unknownOpcode opcode) := by
  rw [encodeRaw, checkFormat_of_eq hformat, Operation.ofRaw, h]
  rfl

/-- **What passes the checks is the typed call**, whatever becomes of its operands. -/
lemma encodeRaw_of_call? {op : Operation} {call : BuilderCall}
    (h : op.call? operands = some call) :
    encoder.encodeRaw op.raw operands = call.run encoder := by
  have hformat : Format.ofOpcode op.raw = operands.format := by
    rw [Operation.ofOpcode_raw, ← Operation.isSome_call?_iff, h]
    rfl
  rw [encodeRaw, checkFormat_of_eq hformat, Operation.ofRaw, Operation.ofRaw?_raw]
  -- only the four pairs of operation and operands that make a call are left
  cases op <;> cases operands <;> cases h <;> rfl

/-- **An opcode with operands is checked before any of the operands.**  Its tag comes first: if it
selects another format, this is the error, and no other check has it as its error.  The opcode comes
second; it has to name an operation, which no opcode of more than twelve bits does.  Neither check
logs anything.  What passes them is the typed call of the one operation of that opcode, which
refuses and logs what it would on its own. -/
theorem encodeRaw_checks_in_order (encoder : Encoder) (opcode : UInt16) (operands : Operands) :
    ((Format.ofOpcode opcode ≠ operands.format
          ∧ encoder.encodeRaw opcode operands
            = Checked.fail (.formatMismatch opcode operands.format (Format.ofOpcode opcode)))
        ∨ (Format.ofOpcode opcode = operands.format
          ∧ (∀ op ∈ Operation.all, op.raw ≠ opcode)
          ∧ encoder.encodeRaw opcode operands = Checked.fail (.unknownOpcode opcode))
        ∨ (Format.ofOpcode opcode = operands.format ∧ opcode ≤ 0xFFF
          ∧ ∃ op : Operation, op.IsNamedBy opcode ∧ ∃ call, op.call? operands = some call
            ∧ encoder.encodeRaw opcode operands = call.run encoder))
      ∧ ((∃ named expected actual, (encoder.encodeRaw opcode operands).result
            = .error (.formatMismatch named expected actual))
          ↔ Format.ofOpcode opcode ≠ operands.format) := by
  by_cases hformat : Format.ofOpcode opcode = operands.format
  · cases h : Operation.ofRaw? opcode with
    | none =>
        have hread := encoder.encodeRaw_of_unknown hformat h
        refine ⟨.inr (.inl ⟨hformat, Operation.ofRaw?_eq_none_iff.mp h, hread⟩), ?_⟩
        simp [hread, hformat, Checked.fail]
    | some op =>
        obtain rfl : op.raw = opcode := Operation.ofRaw?_eq_some_iff.mp h
        have hoperands : op.format = operands.format := by rw [← hformat, Operation.ofOpcode_raw]
        obtain ⟨call, hcall⟩ :=
          Option.isSome_iff_exists.mp (Operation.isSome_call?_iff.mpr hoperands)
        have hread := encoder.encodeRaw_of_call? hcall
        refine ⟨.inr (.inr ⟨hformat, op.raw_le, op, Operation.isNamedBy_of_raw_eq rfl, call, hcall,
          hread⟩), iff_of_false ?_ (not_not_intro hformat)⟩
        rintro ⟨named, expected, actual, herror⟩
        rw [hread] at herror
        obtain ⟨field, -, hfield⟩ := call.error_of_run encoder herror
        cases hfield
  · have hread := encoder.encodeRaw_of_mismatch hformat
    refine ⟨.inl ⟨hformat, hread⟩, ?_⟩
    simp [hread, hformat, Checked.fail]

end Encoder

/-! ## The opcode and the operands of a word -/

/-- The operands of a payload that go with an opcode: all but the shift and the addressing mode. -/
def Payload.operands : Payload → Operands
  | register f => .register f.rd.bits.toUInt64 f.rn.bits.toUInt64 f.rm.bits.toUInt64
  | immediate f => .immediate f.rd.bits.toUInt64 f.rn.bits.toUInt64 f.immediate
  | branch f => .branch f.offset
  | memory f => .memory f.rd.bits.toUInt64 f.rn.bits.toUInt64 f.offset

/-- Whether an opcode with operands gives the field a value. -/
def Field.carried : Field → Bool
  | shiftType | shiftAmount | mode => false
  | _ => true

/-- The bits that an opcode with operands determines, from the top of the word down. -/
def Format.carriedBits : Format → Word
  | register => span 37 63
  | immediate => span 42 63 ||| span 0 33
  | branch => span 52 63 ||| span 0 47
  | memory => span 42 63 ||| span 0 31

lemma Payload.format_operands (payload : Payload) : payload.operands.format = payload.format := by
  cases payload <;> rfl

lemma Format.assemble_carried (format : Format) :
    assemble (format.fields.filter Field.carried) (fun _ => -1) = format.carriedBits := by
  cases format <;> rfl

/-- **The call for a payload** gives the fields their values in the payload, and nothing to the
fields that it does not carry. -/
lemma Operation.value_of_call? {op : Operation} {payload : Payload} {call : BuilderCall}
    (hraw : op.raw = payload.opcode) (h : op.call? payload.operands = some call) (field : Field) :
    call.value field = if field.carried then payload.operand field else 0 := by
  have hopcode : op.raw.toUInt64 = payload.opcode.toUInt64 := congrArg UInt16.toUInt64 hraw
  cases op <;> cases payload <;> cases h
  all_goals
    cases field with
    | opcode => exact hopcode
    | _ => rfl

namespace Word

/-- The bits of a word that its opcode and its operands determine. -/
def carriedPart (word : Word) : Word := word &&& (Word.format word).carriedBits

lemma carriedPart_eq_assemble (word : Word) :
    carriedPart word = assemble (Word.format word).fields
      fun field => if field.carried then field.get word else 0 := by
  rw [← assemble_filter, assemble_get, Format.assemble_carried, carriedPart]

/-- The opcode and the operands determine a word, but for its stray bits, exactly when the fields
that they do not carry are clear. -/
lemma carriedPart_eq_definedPart_iff (word : Word) :
    carriedPart word = definedPart word
      ↔ ∀ field ∈ (Word.format word).fields, field.carried = false → field.get word = 0 := by
  rw [carriedPart_eq_assemble, definedPart_eq, Format.mask_eq_assemble, ← assemble_get,
    assemble_eq_assemble_iff (Word.format word).fields_apart]
  refine forall₂_congr fun field _ => ?_
  cases field.carried with
  | false => simp [Field.truncate_get, eq_comm]
  | true => simp

lemma toUInt8_get_eq_zero_iff {field : Field} (hwidth : field.width ≤ 8) (word : Word) :
    (field.get word).toUInt8 = 0 ↔ field.get word = 0 := by
  have hzero : (0 : UInt8).toUInt64 = 0 := rfl
  rw [← UInt8.toUInt64_inj, toUInt64_toUInt8_get hwidth, hzero]

lemma shift_eq_lsl_iff (word : Word) :
    Shift.ofBits (shiftType word) = .lsl ↔ Field.shiftType.get word = 0 := by
  have hlt : (shiftType word).toNat < 2 ^ 2 := Field.shiftType.toNat_toUInt8_get_lt word
  have hlsl : Shift.ofBits (shiftType word) = Shift.ofBits 0 ↔ shiftType word = 0 :=
    Shift.ofBits_inj hlt (by decide)
  exact hlsl.trans (toUInt8_get_eq_zero_iff (by decide) word)

/-- What an opcode with operands leaves out of a word: the shift of the register format and the
mode of the memory format. -/
lemma uncarried_clear_iff (word : Word) :
    (∀ field ∈ (Word.format word).fields, field.carried = false → field.get word = 0)
      ↔ (Word.format word ≠ .register
          ∨ Shift.ofBits (shiftType word) = .lsl ∧ shiftAmount word = 0)
        ∧ (Word.format word ≠ .memory ∨ mode word = 0) := by
  rw [shift_eq_lsl_iff, shiftAmount, mode, toUInt8_get_eq_zero_iff (by decide),
    toUInt8_get_eq_zero_iff (by decide)]
  cases Word.format word <;> simp [Format.fields, Field.carried]

variable {word : Word} {op : Operation}

/-- Only a mode can keep a word with an operation from holding an instruction. -/
lemma resolves_iff (h : operation? word = some op) : Resolves word ↔ ¬HasUndefinedMode word := by
  obtain ⟨hnone, -⟩ | ⟨hmode, hread⟩ | ⟨instruction, -, hmode, hread⟩ :=
    Instruction.ofWord_cases word
  · rw [h] at hnone
    cases hnone
  · refine iff_of_false ?_ (not_not_intro hmode)
    rintro ⟨instruction, hresult⟩
    rw [hread] at hresult
    cases hresult
  · refine iff_of_true ⟨instruction, ?_⟩ hmode
    rw [hread]
    rfl

/-- A word whose mode may be forgotten is in the first of the modes, so not in an undefined one. -/
lemma resolves_of_carriedPart_eq (h : operation? word = some op)
    (hsame : carriedPart word = definedPart word) : Resolves word := by
  rw [resolves_iff h, hasUndefinedMode_iff h, ← format_of_operation h]
  rintro ⟨hformat, hbits⟩
  obtain ⟨-, hclear⟩ :=
    (uncarried_clear_iff word).mp ((carriedPart_eq_definedPart_iff word).mp hsame)
  rw [hclear.resolve_left (not_not_intro hformat)] at hbits
  exact absurd hbits (by decide)

end Word

namespace Encoder

variable (encoder : Encoder) {word : Word}

/-- **The opcode and the operands of a word are always accepted**, because a field yields no more
bits than it holds. -/
lemma encodeRaw_decode {op : Operation} (h : word.operation? = some op) :
    encoder.encodeRaw (Word.decode word).opcode (Word.decode word).operands
      = Checked.succeed word.carriedPart := by
  have hraw : op.raw = (Word.decode word).opcode := by
    rw [Payload.opcode_decode, ← Operation.ofRaw?_eq_some_iff, ← Word.operation?, h]
  have hformat : Word.format word = op.format := Word.format_of_operation h
  have hoperands : op.format = (Word.decode word).operands.format := by
    rw [Payload.format_operands, Payload.format_decode, hformat]
  obtain ⟨call, hcall⟩ := Option.isSome_iff_exists.mp (Operation.isSome_call?_iff.mpr hoperands)
  have hfields : call.operation.format = Word.format word := by
    rw [Operation.operation_of_call? hcall, hformat]
  have hvalue : ∀ field ∈ (Word.format word).fields,
      call.value field = if field.carried then field.get word else 0 := by
    intro field hfield
    rw [Operation.value_of_call? hraw hcall, Payload.operand_decode word hfield]
  have hfits : ∀ field ∈ call.operandFields, fits (call.value field) field.width = true := by
    intro field hfield
    have hmem : field ∈ (Word.format word).fields := hfields ▸ call.operandFields_subset hfield
    rw [hvalue field hmem, fits_iff_truncate_eq]
    split
    · exact field.truncate_get word
    · exact truncate_zero field.width
  have hword : call.word = word.carriedPart := by
    rw [call.word_eq_assemble, hfields, Word.carriedPart_eq_assemble]
    exact assemble_congr fun field hfield => by rw [hvalue field hfield]
  rw [← hraw, encoder.encodeRaw_of_call? hcall, call.run_of_fits encoder hfits, hword]

/-- **An opcode with operands forgets the shift and the mode, and nothing else.**  If the opcode of
a word names an operation, then the opcode and the operands of the word are encoded in silence
under every policy, and the result is the word without its shift or mode and its stray bits.  It is
the word of the instruction read from the same word exactly when there was no shift or mode to
forget; and a memory word that holds no instruction, for its mode, is encoded like the others. -/
theorem encodeRaw_forgets_shift_and_mode (encoder : Encoder) (word : Word)
    (h : ∃ op ∈ Operation.all, op.raw = Word.opcode word) :
    encoder.encodeRaw (Word.decode word).opcode (Word.decode word).operands
        = Checked.succeed (word &&& (Word.format word).carriedBits)
      ∧ ((∃ instruction, (Instruction.ofWord word).result = .ok instruction
            ∧ (encoder.encodeRaw (Word.decode word).opcode (Word.decode word).operands).result
              = .ok instruction.encode)
          ↔ (Word.format word ≠ .register
              ∨ Shift.ofBits (Word.shiftType word) = .lsl ∧ Word.shiftAmount word = 0)
            ∧ (Word.format word ≠ .memory ∨ Word.mode word = 0))
      ∧ ((Instruction.ofWord word).result = .error (.invalidMemoryMode (Word.mode word))
          ↔ Word.format word = .memory ∧ (5 : UInt8) ≤ Word.mode word) := by
  obtain ⟨op, -, hraw⟩ := h
  have hop : word.operation? = some op := Operation.ofRaw?_eq_some_iff.mpr hraw
  have hencode : encoder.encodeRaw (Word.decode word).opcode (Word.decode word).operands
      = Checked.succeed word.carriedPart := encoder.encodeRaw_decode hop
  refine ⟨hencode, ?_, ?_⟩
  · rw [hencode, ← Word.uncarried_clear_iff, ← Word.carriedPart_eq_definedPart_iff]
    constructor
    · rintro ⟨instruction, hread, hsame⟩
      rw [← Instruction.encode_of_ofWord hread]
      exact Except.ok.inj hsame
    · intro hsame
      obtain ⟨instruction, hread⟩ := Word.resolves_of_carriedPart_eq hop hsame
      refine ⟨instruction, hread, ?_⟩
      rw [Instruction.encode_of_ofWord hread, ← hsame]
      rfl
  · rw [Instruction.result_eq_invalidMemoryMode_iff, Word.hasUndefinedMode_iff hop,
      Word.format_of_operation hop]
    exact and_iff_left rfl

/-- A load with mode 7 and stray bits, by the strict encoder: it is encoded with mode 0 and without
the stray bits, although it holds no instruction. -/
theorem encodeRaw_forgets_undefined_mode_of_load :
    Encoder.strict.encodeRaw 0xDC0 (.memory 1 2 16) = Checked.succeed 0xDC00880000000010
      ∧ (Instruction.ofWord 0xDC00883D00000010).result = .error (.invalidMemoryMode 7) := by
  have hload : ∃ op ∈ Operation.all, op.raw = Word.opcode 0xDC00883D00000010 := by decide
  obtain ⟨hencode, -, hread⟩ :=
    encodeRaw_forgets_shift_and_mode Encoder.strict 0xDC00883D00000010 hload
  exact ⟨hencode, hread.mpr (by decide)⟩

end Encoder

end WordCodec
