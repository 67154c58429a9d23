import WordCodec.Proofs.Policies

/-!
# Calls of the checked builders

A checked builder is called with operands of 64 bits, `BuilderCall`.  The registers and the shift
amount pass through a byte on their way into the word, and every field has its own width, so an
operand may lose bits in two places.

* `BuilderCall.value` — the value that a call gives to each field of its format, as wide as it is.
* `word_eq_assemble` — the unchecked builders put exactly these values together, the ones that
  went through a byte included.  So `decode_word` says what is read back from the word.
* `run_eq_acceptAll` — a checked builder is **the row of its checks, then the word of the
  unchecked builder**, under every policy.

What the two policies make of a call follows from what they make of the row.
-/

namespace WordCodec

/-- A call of one of the builders. -/
inductive BuilderCall where
  | register (op : RegisterOp) (rd rn rm : UInt64)
  | registerShifted (op : RegisterOp) (rd rn rm : UInt64) (shift : Shift) (amount : UInt64)
  | immediate (op : ImmediateOp) (rd rn value : UInt64)
  | branch (op : BranchOp) (offset : UInt64)
  | memory (op : MemoryOp) (rd rn : UInt64) (mode : MemoryMode) (offset : UInt64)
  deriving DecidableEq, Repr

namespace BuilderCall

/-- The operation whose builder is called. -/
def operation : BuilderCall → Operation
  | register op .. | registerShifted op .. => .register op
  | immediate op .. => .immediate op
  | branch op _ => .branch op
  | memory op .. => .memory op

/-- The word of the unchecked builder, which takes registers and shift amount as bytes. -/
def word : BuilderCall → Word
  | register op rd rn rm => op.pack rd.toUInt8 rn.toUInt8 rm.toUInt8
  | registerShifted op rd rn rm shift amount =>
    op.packShifted rd.toUInt8 rn.toUInt8 rm.toUInt8 shift amount.toUInt8
  | immediate op rd rn value => op.pack rd.toUInt8 rn.toUInt8 value
  | branch op offset => op.pack offset
  | memory op rd rn mode offset => op.packMode rd.toUInt8 rn.toUInt8 mode offset

/-- What the checked builder makes of the call. -/
def run (encoder : Encoder) : BuilderCall → Checked Word
  | register op rd rn rm => encoder.register op rd rn rm
  | registerShifted op rd rn rm shift amount => encoder.registerShifted op rd rn rm shift amount
  | immediate op rd rn value => encoder.immediate op rd rn value
  | branch op offset => encoder.branch op offset
  | memory op rd rn mode offset => encoder.memory op rd rn mode offset

/-- The fields that the operands of the call are meant for, in the order of the operands. -/
def operandFields : BuilderCall → List Field
  | register .. => [.rd, .rn, .rm]
  | registerShifted .. => [.rd, .rn, .rm, .shiftAmount]
  | immediate .. => [.rd, .rn, .immediate]
  | branch .. => [.branchOffset]
  | memory .. => [.rd, .rn, .memoryOffset]

/-- **The value that a call gives to a field**, not cut down; opcode, shift and addressing mode are
given by their codes.  A field of another format has none, and counts as clear, and so does the
shift of a call without one. -/
def value : BuilderCall → Field → UInt64
  | register op rd rn rm => fun
    | .opcode => op.raw.toUInt64
    | .rd => rd
    | .rn => rn
    | .rm => rm
    | _ => 0
  | registerShifted op rd rn rm shift amount => fun
    | .opcode => op.raw.toUInt64
    | .rd => rd
    | .rn => rn
    | .rm => rm
    | .shiftType => shift.bits.toUInt64
    | .shiftAmount => amount
    | _ => 0
  | immediate op rd rn value => fun
    | .opcode => op.raw.toUInt64
    | .rd => rd
    | .rn => rn
    | .immediate => value
    | _ => 0
  | branch op offset => fun
    | .opcode => op.raw.toUInt64
    | .branchOffset => offset
    | _ => 0
  | memory op rd rn mode offset => fun
    | .opcode => op.raw.toUInt64
    | .rd => rd
    | .rn => rn
    | .mode => mode.bits.toUInt64
    | .memoryOffset => offset
    | _ => 0

end BuilderCall

/-! ## The word of a call -/

/-- A narrow field takes the same bits from a value and from its low byte. -/
lemma Field.put_toUInt8 {field : Field} (hwidth : field.width ≤ 8) (value : UInt64) :
    field.put value.toUInt8.toUInt64 = field.put value :=
  put_congr (truncate_toUInt8 value hwidth)

lemma registerBits_toUInt8 (rd rn : UInt64) :
    registerBits rd.toUInt8 rn.toUInt8 = Field.rd.put rd ||| Field.rn.put rn := by
  rw [registerBits, Field.put_toUInt8 (by decide), Field.put_toUInt8 (by decide)]

lemma RegisterOp.pack_toUInt8 (op : RegisterOp) (rd rn rm : UInt64) :
    op.pack rd.toUInt8 rn.toUInt8 rm.toUInt8
      = opcodeBits op.raw ||| (Field.rd.put rd ||| (Field.rn.put rn ||| Field.rm.put rm)) := by
  rw [pack, registerBits_toUInt8, Field.put_toUInt8 (by decide), UInt64.or_assoc, UInt64.or_assoc]

/-- A shift by nothing leaves the word as it is. -/
lemma RegisterOp.packShifted_standard_zero (op : RegisterOp) (rd rn rm : UInt8) :
    op.packShifted rd rn rm .standard 0 = op.pack rd rn rm := by
  have htype : Field.shiftType.put Shift.standard.bits.toUInt64 = 0 := by decide
  have hamount : Field.shiftAmount.put (0 : UInt8).toUInt64 = 0 := by decide
  rw [packShifted, htype, hamount, UInt64.or_zero, UInt64.or_zero]

namespace BuilderCall

variable (call : BuilderCall)

/-- **The builders put the given values together**, and the way through a byte changes nothing. -/
lemma word_eq_assemble : call.word = assemble call.operation.format.fields call.value := by
  cases call with
  | register op rd rn rm =>
      simp only [word, RegisterOp.pack_toUInt8, operation, Operation.format, Format.fields,
        assemble_cons, assemble_nil, value, Field.put_zero, UInt64.or_zero]
      rfl
  | registerShifted op rd rn rm shift amount =>
      have hwidth : Field.shiftAmount.width ≤ 8 := by decide
      simp only [word, RegisterOp.packShifted, RegisterOp.pack_toUInt8, Field.put_toUInt8 hwidth,
        operation, Operation.format, Format.fields, assemble_cons, assemble_nil, UInt64.or_assoc,
        UInt64.or_zero]
      rfl
  | immediate op rd rn value =>
      simp only [word, ImmediateOp.pack, registerBits_toUInt8, operation, Operation.format,
        Format.fields, assemble_cons, assemble_nil, UInt64.or_assoc, UInt64.or_zero]
      rfl
  | branch op offset =>
      simp only [word, BranchOp.pack, operation, Operation.format, Format.fields, assemble_cons,
        assemble_nil, UInt64.or_zero]
      rfl
  | memory op rd rn mode offset =>
      simp only [word, MemoryOp.packMode, registerBits_toUInt8, operation, Operation.format,
        Format.fields, assemble_cons, assemble_nil, UInt64.or_assoc, UInt64.or_zero]
      rfl

lemma value_opcode : call.value .opcode = call.operation.raw.toUInt64 := by
  cases call <;> rfl

lemma opcode_word : Word.opcode call.word = call.operation.raw := by
  rw [Word.opcode, word_eq_assemble, get_assemble call.operation.format.fields_apart
    call.operation.format.opcode_mem_fields, value_opcode, Payload.truncate_opcode
    call.operation.raw_le, UInt16.toUInt16_toUInt64]

lemma format_word : Word.format call.word = call.operation.format := by
  rw [Word.format, opcode_word, Operation.ofOpcode_raw]

lemma operation?_decode_word : (Word.decode call.word).operation? = some call.operation := by
  rw [Payload.operation?, Payload.opcode_decode, opcode_word, Operation.ofRaw?_raw]

/-- **What is read back** of each field of the format is the value given, cut down to the field. -/
lemma operand_decode_word {field : Field} (hfield : field ∈ call.operation.format.fields) :
    (Word.decode call.word).operand field = truncate (call.value field) field.width := by
  have hword : field ∈ (Word.format call.word).fields := by rwa [format_word]
  rw [Payload.operand_decode call.word hword, word_eq_assemble,
    get_assemble call.operation.format.fields_apart hfield]

/-- The operands of a call are meant for fields of its format. -/
lemma operandFields_subset : call.operandFields ⊆ call.operation.format.fields := by
  cases call <;> simp [operandFields, operation, Operation.format, Format.fields]

end BuilderCall

/-! ## The checks of a call -/

namespace Encoder

variable (encoder : Encoder)

/-- Checks the values of the fields in turn; nothing is checked after a refusal. -/
def acceptAll (values : Field → UInt64) : List Field → Checked Unit
  | [] => Checked.succeed ()
  | field :: fields => encoder.accept field (values field) >>= fun _ => acceptAll values fields

lemma acceptAll_cons (values : Field → UInt64) (field : Field) (fields : List Field) :
    encoder.acceptAll values (field :: fields)
      = encoder.accept field (values field) >>= fun _ => encoder.acceptAll values fields := rfl

lemma result_acceptAll_standard (values : Field → UInt64) (fields : List Field) :
    (standard.acceptAll values fields).result = .ok () := by
  induction fields with
  | nil => rfl
  | cons field fields ih =>
      rw [acceptAll_cons, Checked.result_bind, result_accept_standard, ← ih]
      rfl

lemma result_acceptAll_strict (values : Field → UInt64) (fields : List Field) :
    (strict.acceptAll values fields).result = .ok ()
      ↔ ∀ field ∈ fields, fits (values field) field.width = true := by
  induction fields with
  | nil => simp [acceptAll, Checked.succeed]
  | cons field fields ih =>
      rw [acceptAll_cons, Checked.result_bind, result_accept_strict, List.forall_mem_cons,
        ← ih, checkOperand]
      by_cases hfits : fits (values field) field.width = true
      · rw [if_pos hfits]
        exact (and_iff_right hfits).symm
      · rw [if_neg hfits]
        exact iff_of_false (fun h => by cases h) fun h => hfits h.1

lemma acceptAll_of_fits {values : Field → UInt64} {fields : List Field}
    (h : ∀ field ∈ fields, fits (values field) field.width = true) :
    encoder.acceptAll values fields = Checked.succeed () := by
  induction fields with
  | nil => rfl
  | cons field fields ih =>
      rw [List.forall_mem_cons] at h
      rw [acceptAll_cons, encoder.accept_of_fits h.1, Checked.succeed_bind, ih h.2]

/-- A row of checks refuses one of its operands, and for no other reason than its width. -/
lemma error_of_acceptAll {values : Field → UInt64} {fields : List Field} {error : CodecError}
    (h : (encoder.acceptAll values fields).result = .error error) :
    ∃ field ∈ fields, error = .operandOutOfRange field (values field) field.width := by
  induction fields with
  | nil => cases h
  | cons field fields ih =>
      obtain hfirst | ⟨kept, -, hrest⟩ := Checked.result_bind_eq_error_iff.mp h
      · exact ⟨field, List.mem_cons_self, encoder.error_of_accept hfirst⟩
      · obtain ⟨other, hother, herror⟩ := ih hrest
        exact ⟨other, List.mem_cons_of_mem _ hother, herror⟩

/-- The two registers that most calls begin with may be packed as they were given. -/
lemma acceptNarrow_registers_bind {α : Type} {rd rn : UInt64} {next : UInt8 → UInt8 → Checked α}
    (h : ∀ {rd rd' rn rn' : UInt8}, registerBits rd rn = registerBits rd' rn' →
      next rd rn = next rd' rn') :
    (encoder.acceptNarrow .rd rd >>= fun rd => encoder.acceptNarrow .rn rn >>= next rd)
      = encoder.accept .rd rd >>= fun _ => encoder.accept .rn rn >>= fun _ =>
          next rd.toUInt8 rn.toUInt8 := by
  refine (encoder.acceptNarrow_bind (by decide) fun rd rd' hrd => ?_).trans
    (bind_congr fun _ => ?_)
  · refine bind_congr fun rn => h ?_
    rw [registerBits, registerBits, Field.put_congr hrd]
  · refine encoder.acceptNarrow_bind (by decide) fun rn rn' hrn => h ?_
    rw [registerBits, registerBits, Field.put_congr hrn]

lemma registerShifted_eq_accept (op : RegisterOp) (rd rn rm : UInt64) (shift : Shift)
    (amount : UInt64) :
    encoder.registerShifted op rd rn rm shift amount
      = encoder.accept .rd rd >>= fun _ => encoder.accept .rn rn >>= fun _ =>
          encoder.accept .rm rm >>= fun _ => encoder.accept .shiftAmount amount >>= fun _ =>
            Checked.succeed
              (op.packShifted rd.toUInt8 rn.toUInt8 rm.toUInt8 shift amount.toUInt8) := by
  refine (encoder.acceptNarrow_registers_bind fun h => ?_).trans
    (bind_congr fun _ => bind_congr fun _ => ?_)
  · simp only [RegisterOp.packShifted, RegisterOp.pack, h]
  refine (encoder.acceptNarrow_bind (by decide) fun _ _ h => ?_).trans (bind_congr fun _ => ?_)
  · simp only [RegisterOp.packShifted, RegisterOp.pack, Field.put_congr h]
  · refine encoder.acceptNarrow_bind (by decide) fun _ _ h => ?_
    rw [RegisterOp.packShifted, RegisterOp.packShifted, Field.put_congr h]

end Encoder

namespace BuilderCall

/-- **A checked builder is its checks and then the unchecked builder.**  Of each operand the word
takes no more bits than the check leaves, so the operand may as well be packed as it was given. -/
lemma run_eq_acceptAll (encoder : Encoder) (call : BuilderCall) :
    call.run encoder = encoder.acceptAll call.value call.operandFields
      >>= fun _ => Checked.succeed call.word := by
  cases call with
  | register op rd rn rm =>
      -- the builder without a shift is the one with a shift by nothing, which is always accepted
      have hamount : encoder.accept .shiftAmount 0 = Checked.succeed 0 :=
        encoder.accept_of_fits (by decide)
      simp only [operandFields, Encoder.acceptAll_cons, bind_assoc]
      refine (encoder.registerShifted_eq_accept op rd rn rm .standard 0).trans ?_
      simp only [hamount, Checked.succeed_bind, word, ← RegisterOp.packShifted_standard_zero]
      rfl
  | registerShifted op rd rn rm shift amount =>
      simp only [operandFields, Encoder.acceptAll_cons, bind_assoc]
      exact encoder.registerShifted_eq_accept op rd rn rm shift amount
  | immediate op rd rn value =>
      simp only [operandFields, Encoder.acceptAll_cons, bind_assoc]
      refine (encoder.acceptNarrow_registers_bind fun h => ?_).trans
        (bind_congr fun _ => bind_congr fun _ => ?_)
      · simp only [ImmediateOp.pack, h]
      · refine encoder.accept_bind ?_
        rw [ImmediateOp.pack, ImmediateOp.pack, Field.put_truncate]
  | branch op offset =>
      simp only [operandFields, Encoder.acceptAll_cons, bind_assoc]
      refine encoder.accept_bind ?_
      rw [BranchOp.pack, BranchOp.pack, Field.put_truncate]
  | memory op rd rn mode offset =>
      simp only [operandFields, Encoder.acceptAll_cons, bind_assoc]
      refine (encoder.acceptNarrow_registers_bind fun h => ?_).trans
        (bind_congr fun _ => bind_congr fun _ => ?_)
      · simp only [MemoryOp.packMode, h]
      · refine encoder.accept_bind ?_
        rw [MemoryOp.packMode, MemoryOp.packMode, Field.put_truncate]

lemma run_of_fits (encoder : Encoder) {call : BuilderCall}
    (h : ∀ field ∈ call.operandFields, fits (call.value field) field.width = true) :
    call.run encoder = Checked.succeed call.word := by
  rw [run_eq_acceptAll, encoder.acceptAll_of_fits h, Checked.succeed_bind]

lemma error_of_run (encoder : Encoder) {call : BuilderCall} {error : CodecError}
    (h : (call.run encoder).result = .error error) :
    ∃ field ∈ call.operandFields,
      error = .operandOutOfRange field (call.value field) field.width := by
  rw [run_eq_acceptAll] at h
  obtain hchecks | ⟨-, -, hword⟩ := Checked.result_bind_eq_error_iff.mp h
  · exact encoder.error_of_acceptAll hchecks
  · cases hword

/-- A call succeeds when its checks do, and always with the same word. -/
lemma result_run_eq_ok_iff (encoder : Encoder) (call : BuilderCall) (word : Word) :
    (call.run encoder).result = .ok word
      ↔ word = call.word ∧ (encoder.acceptAll call.value call.operandFields).result = .ok () := by
  rw [run_eq_acceptAll, Checked.result_bind]
  cases (encoder.acceptAll call.value call.operandFields).result with
  | error error => exact iff_of_false (fun h => by cases h) fun h => by cases h.2
  | ok _ => exact ⟨fun h => ⟨(Except.ok.inj h).symm, rfl⟩, fun h => congrArg Except.ok h.1.symm⟩

lemma result_run_standard (call : BuilderCall) :
    (call.run .standard).result = .ok call.word :=
  (call.result_run_eq_ok_iff .standard call.word).mpr
    ⟨rfl, Encoder.result_acceptAll_standard call.value call.operandFields⟩

/-- **The strict builders succeed exactly when every operand fits its field.** -/
lemma result_run_strict_eq_ok_iff (call : BuilderCall) (word : Word) :
    (call.run .strict).result = .ok word
      ↔ word = call.word ∧ ∀ field ∈ call.operandFields,
          (call.value field).toNat < 2 ^ field.width := by
  simp only [result_run_eq_ok_iff, Encoder.result_acceptAll_strict, fits_iff_toNat_lt]

/-- What a call gives to a field without an operand is a code or nothing, and never too wide. -/
lemma value_lt_of_notMem (call : BuilderCall) {field : Field}
    (hfield : field ∉ call.operandFields) : (call.value field).toNat < 2 ^ field.width := by
  have hopcode : call.operation.raw.toUInt64.toNat < 2 ^ 12 := by
    rw [UInt16.toNat_toUInt64]
    exact Nat.lt_succ_of_le (UInt16.le_iff_toNat_le.mp call.operation.raw_le)
  cases call with
  | register op rd rn rm =>
      cases field with
      | opcode => exact hopcode
      | rd | rn | rm => simp [operandFields] at hfield
      | _ => exact Nat.two_pow_pos _
  | registerShifted op rd rn rm shift amount =>
      cases field with
      | opcode => exact hopcode
      | shiftType => exact (UInt8.toNat_toUInt64 _).trans_lt shift.toNat_bits_lt
      | rd | rn | rm | shiftAmount => simp [operandFields] at hfield
      | _ => exact Nat.two_pow_pos _
  | immediate op rd rn value =>
      cases field with
      | opcode => exact hopcode
      | rd | rn | immediate => simp [operandFields] at hfield
      | _ => exact Nat.two_pow_pos _
  | branch op offset =>
      cases field with
      | opcode => exact hopcode
      | branchOffset => simp [operandFields] at hfield
      | _ => exact Nat.two_pow_pos _
  | memory op rd rn mode offset =>
      cases field with
      | opcode => exact hopcode
      | mode => exact (UInt8.toNat_toUInt64 _).trans_lt mode.toNat_bits_lt
      | rd | rn | memoryOffset => simp [operandFields] at hfield
      | _ => exact Nat.two_pow_pos _

/-- **The checked builders refine the unchecked ones.**  The encoder that cuts operands down always
makes the word of the unchecked builder, in which every field of the format holds what was given
for it modulo two to the power of its width.  The strict encoder makes the same word exactly when
every operand fits, and then the fields hold the operands as they were given.  An operand that
either of them accepted for a field of at most eight bits is the same before and after it becomes a
byte. -/
theorem checked_builders_refine_builders (call : BuilderCall) :
    ((call.run .standard).result = .ok call.word
        ∧ (Word.decode call.word).operation? = some call.operation
        ∧ ∀ field ∈ call.operation.format.fields,
            ((Word.decode call.word).operand field).toNat
              = (call.value field).toNat % 2 ^ field.width)
      ∧ ((∃ word, (call.run .strict).result = .ok word)
        ↔ ∀ field ∈ call.operandFields, (call.value field).toNat < 2 ^ field.width)
      ∧ (∀ word, (call.run .strict).result = .ok word →
        (call.run .standard).result = .ok word
          ∧ ∀ field ∈ call.operation.format.fields,
              (Word.decode word).operand field = call.value field)
      ∧ ∀ encoder : Encoder, ∀ field ∈ call.operandFields, field.width ≤ 8 → ∀ kept,
          (encoder.accept field (call.value field)).result = .ok kept →
            kept.toUInt8.toUInt64 = kept := by
  refine ⟨⟨call.result_run_standard, call.operation?_decode_word, fun field hfield => ?_⟩, ?_,
    fun word hrun => ?_, fun encoder field _ hwidth kept haccept => ?_⟩
  · rw [call.operand_decode_word hfield, toNat_truncate]
  · simp only [result_run_strict_eq_ok_iff, exists_eq_left]
  · obtain ⟨rfl, hoperands⟩ := (call.result_run_strict_eq_ok_iff word).mp hrun
    refine ⟨call.result_run_standard, fun field hfield => ?_⟩
    have hfits : (call.value field).toNat < 2 ^ field.width := by
      by_cases hoperand : field ∈ call.operandFields
      · exact hoperands field hoperand
      · exact call.value_lt_of_notMem hoperand
    rw [call.operand_decode_word hfield, truncate_of_lt hfits]
  · exact encoder.toUInt64_toUInt8_of_accept hwidth haccept

/-- The standard encoder takes register 259 for register 3, and keeps it through a byte; the strict
encoder takes the widest immediate there is. -/
theorem checked_builders_on_widest_operands :
    ((Word.decode (registerShifted .add 1 2 259 .lsr 63).word).operand .rm).toNat = 259 % 2 ^ 5
      ∧ UInt8.toUInt64 (UInt64.toUInt8 3) = 3
      ∧ (Word.decode (immediate .movz 4 0 0x3FFFFFFFF).word).operand .immediate = 0x3FFFFFFFF := by
  obtain ⟨⟨-, -, hread⟩, -, -, hnarrow⟩ :=
    checked_builders_refine_builders (registerShifted .add 1 2 259 .lsr 63)
  obtain ⟨-, -, hstrict, -⟩ := checked_builders_refine_builders (immediate .movz 4 0 0x3FFFFFFFF)
  refine ⟨hread .rm (by decide), hnarrow .standard .rm (by decide) (by decide) 3 rfl, ?_⟩
  exact (hstrict _ rfl).2 .immediate (by decide)

end BuilderCall

end WordCodec
