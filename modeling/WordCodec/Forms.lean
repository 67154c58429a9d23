import WordCodec.Machine.Condition
import WordCodec.Encoder
import WordCodec.Machine.StatusFlags

/-!
# How the codec's types are written in JSON

* Registers, conditions, shifts, addressing modes, formats, fields and the operations of each
  format are written by name.
* An operation of any format, a payload, operands and an instruction are written as an object whose
  one key is the letter of the format.
* What a letter stands before is a record with the operands in their usual order.

Only the operations of one format have names of their own; `Operation` says in front which format
it is.  Numbers may be wider than the fields they are meant for.
-/

namespace WordCodec

open Json

/-! ## Names -/

/-- A register, `X0` to `X30` or `Sp`.  The lower-case names of the assembler are refused. -/
def Register.form : Form Register := enumeration Register.all Register.label

/-- A condition, by its name. -/
def Condition.form : Form Condition := enumeration Condition.all Condition.label

/-- A shift, by its name. -/
def Shift.form : Form Shift := enumeration Shift.all Shift.label

/-- An addressing mode, by its name. -/
def MemoryMode.form : Form MemoryMode := enumeration MemoryMode.all MemoryMode.label

/-- A format, by its letter. -/
def Format.form : Form Format := enumeration Format.all Format.label

/-- A field of a word, by its name. -/
def Field.form : Form Field := enumeration Field.all Field.label

/-- A register-format operation, by its name, which is not the mnemonic. -/
def RegisterOp.form : Form RegisterOp := enumeration RegisterOp.all RegisterOp.label

/-- An immediate-format operation, by its name. -/
def ImmediateOp.form : Form ImmediateOp := enumeration ImmediateOp.all ImmediateOp.label

/-- A branch-format operation, by its name. -/
def BranchOp.form : Form BranchOp := enumeration BranchOp.all BranchOp.label

/-- A memory-format operation, by its name. -/
def MemoryOp.form : Form MemoryOp := enumeration MemoryOp.all MemoryOp.label

/-- **By format.**  A sum of four types whose values are written behind the letter of their
format. -/
def byFormat {α ρ ι β μ : Type} (content : Content) (register : Form ρ) (immediate : Form ι)
    (branch : Form β) (memory : Form μ) (ofRegister : ρ → α) (ofImmediate : ι → α)
    (ofBranch : β → α) (ofMemory : μ → α) : Reader α :=
  readChoice
    [.carrying content Format.register.label register ofRegister,
      .carrying content Format.immediate.label immediate ofImmediate,
      .carrying content Format.branch.label branch ofBranch,
      .carrying content Format.memory.label memory ofMemory]

/-- An operation of any format: its name behind the letter of the format. -/
def Operation.form : Form Operation where
  read := byFormat .value RegisterOp.form ImmediateOp.form BranchOp.form MemoryOp.form
    Operation.register Operation.immediate Operation.branch Operation.memory
  write
    | .register op => tagged Format.register.label (RegisterOp.form.write op)
    | .immediate op => tagged Format.immediate.label (ImmediateOp.form.write op)
    | .branch op => tagged Format.branch.label (BranchOp.form.write op)
    | .memory op => tagged Format.memory.label (MemoryOp.form.write op)

/-! ## Payloads -/

/-- The fields of a register-format word.  The numbers among them may be larger than any that a word
holds: 16 bits for the opcode and 8 for the amount are accepted. -/
def RegisterFields.record :=
  Record.mk "struct RFields" false <|
    .cons ⟨"opcode", .word16, none⟩ <|
    .cons ⟨"rd", Register.form, none⟩ <|
    .cons ⟨"rn", Register.form, none⟩ <|
    .cons ⟨"rm", Register.form, none⟩ <|
    .cons ⟨"shift_type", Shift.form, none⟩ <|
    .cons ⟨"shift_amount", .word8, none⟩ .nil

/-- The fields of a register-format word as a record. -/
def RegisterFields.form : Form RegisterFields :=
  RegisterFields.record.form.via
    (fun (opcode, rd, rn, rm, shift, amount, ()) => ⟨opcode, rd, rn, rm, shift, amount⟩)
    (fun f => (f.opcode, f.rd, f.rn, f.rm, f.shift, f.amount, ()))

/-- The fields of an immediate-format word, the immediate as the pattern of its bits. -/
def ImmediateFields.record :=
  Record.mk "struct IFields" false <|
    .cons ⟨"opcode", .word16, none⟩ <|
    .cons ⟨"rd", Register.form, none⟩ <|
    .cons ⟨"rn", Register.form, none⟩ <|
    .cons ⟨"immediate", .word64, none⟩ .nil

/-- The fields of an immediate-format word as a record. -/
def ImmediateFields.form : Form ImmediateFields :=
  ImmediateFields.record.form.via
    (fun (opcode, rd, rn, immediate, ()) => ⟨opcode, rd, rn, immediate⟩)
    (fun f => (f.opcode, f.rd, f.rn, f.immediate, ()))

/-- The fields of a branch-format word, the offset as the pattern of its bits. -/
def BranchFields.record :=
  Record.mk "struct BFields" false <|
    .cons ⟨"opcode", .word16, none⟩ <|
    .cons ⟨"offset", .word64, none⟩ .nil

/-- The fields of a branch-format word as a record. -/
def BranchFields.form : Form BranchFields :=
  BranchFields.record.form.via
    (fun (opcode, offset, ()) => ⟨opcode, offset⟩)
    (fun f => (f.opcode, f.offset, ()))

/-- The fields of a memory-format word.  The mode is a number, so undefined ones can be written. -/
def MemoryFields.record :=
  Record.mk "struct MFields" false <|
    .cons ⟨"opcode", .word16, none⟩ <|
    .cons ⟨"rd", Register.form, none⟩ <|
    .cons ⟨"rn", Register.form, none⟩ <|
    .cons ⟨"mode", .word8, none⟩ <|
    .cons ⟨"offset", .word64, none⟩ .nil

/-- The fields of a memory-format word as a record. -/
def MemoryFields.form : Form MemoryFields :=
  MemoryFields.record.form.via
    (fun (opcode, rd, rn, mode, offset, ()) => ⟨opcode, rd, rn, mode, offset⟩)
    (fun f => (f.opcode, f.rd, f.rn, f.mode, f.offset, ()))

/-- A payload: its fields behind the letter of its format.  The opcode is not checked against the
letter. -/
def Payload.form : Form Payload where
  read := byFormat .value RegisterFields.form ImmediateFields.form BranchFields.form
    MemoryFields.form Payload.register Payload.immediate Payload.branch Payload.memory
  write
    | .register f => tagged Format.register.label (RegisterFields.form.write f)
    | .immediate f => tagged Format.immediate.label (ImmediateFields.form.write f)
    | .branch f => tagged Format.branch.label (BranchFields.form.write f)
    | .memory f => tagged Format.memory.label (MemoryFields.form.write f)

/-! ## Operands -/

/-- The operands of the register format.  Here registers are numbers, which may be wider than their
field. -/
def Operands.registerRecord :=
  Record.mk "struct variant Operands::R" false <|
    .cons ⟨"rd", .word64, none⟩ <|
    .cons ⟨"rn", .word64, none⟩ <|
    .cons ⟨"rm", .word64, none⟩ .nil

/-- The operands of the immediate format. -/
def Operands.immediateRecord :=
  Record.mk "struct variant Operands::I" false <|
    .cons ⟨"rd", .word64, none⟩ <|
    .cons ⟨"rn", .word64, none⟩ <|
    .cons ⟨"imm", .word64, none⟩ .nil

/-- The operand of the branch format. -/
def Operands.branchRecord :=
  Record.mk "struct variant Operands::B" false <|
    .cons ⟨"offset", .word64, none⟩ .nil

/-- The operands of the memory format, without a mode. -/
def Operands.memoryRecord :=
  Record.mk "struct variant Operands::M" false <|
    .cons ⟨"rd", .word64, none⟩ <|
    .cons ⟨"rn", .word64, none⟩ <|
    .cons ⟨"offset", .word64, none⟩ .nil

/-- Operands behind the letter of the format they are meant for. -/
def Operands.form : Form Operands where
  read := byFormat .record Operands.registerRecord.form Operands.immediateRecord.form
    Operands.branchRecord.form Operands.memoryRecord.form
    (fun (rd, rn, rm, ()) => .register rd rn rm)
    (fun (rd, rn, value, ()) => .immediate rd rn value)
    (fun (offset, ()) => .branch offset)
    (fun (rd, rn, offset, ()) => .memory rd rn offset)
  write
    | .register rd rn rm =>
      tagged Format.register.label (Operands.registerRecord.write (rd, rn, rm, ()))
    | .immediate rd rn value =>
      tagged Format.immediate.label (Operands.immediateRecord.write (rd, rn, value, ()))
    | .branch offset => tagged Format.branch.label (Operands.branchRecord.write (offset, ()))
    | .memory rd rn offset =>
      tagged Format.memory.label (Operands.memoryRecord.write (rd, rn, offset, ()))

/-! ## Instructions -/

/-- The parts of a register-format instruction.  The shift is written even if it means nothing. -/
def Instruction.registerRecord :=
  Record.mk "struct variant Instruction::R" false <|
    .cons ⟨"op", RegisterOp.form, none⟩ <|
    .cons ⟨"rd", Register.form, none⟩ <|
    .cons ⟨"rn", Register.form, none⟩ <|
    .cons ⟨"rm", Register.form, none⟩ <|
    .cons ⟨"shift", Shift.form, none⟩ <|
    .cons ⟨"amount", .word8, none⟩ .nil

/-- The parts of an immediate-format instruction. -/
def Instruction.immediateRecord :=
  Record.mk "struct variant Instruction::I" false <|
    .cons ⟨"op", ImmediateOp.form, none⟩ <|
    .cons ⟨"rd", Register.form, none⟩ <|
    .cons ⟨"rn", Register.form, none⟩ <|
    .cons ⟨"imm", .word64, none⟩ .nil

/-- The parts of a branch-format instruction. -/
def Instruction.branchRecord :=
  Record.mk "struct variant Instruction::B" false <|
    .cons ⟨"op", BranchOp.form, none⟩ <|
    .cons ⟨"offset", .word64, none⟩ .nil

/-- The parts of a memory-format instruction.  The mode has a name, so it is a defined one. -/
def Instruction.memoryRecord :=
  Record.mk "struct variant Instruction::M" false <|
    .cons ⟨"op", MemoryOp.form, none⟩ <|
    .cons ⟨"rd", Register.form, none⟩ <|
    .cons ⟨"rn", Register.form, none⟩ <|
    .cons ⟨"mode", MemoryMode.form, none⟩ <|
    .cons ⟨"offset", .word64, none⟩ .nil

/-- An instruction: its parts behind the letter of its format. -/
def Instruction.form : Form Instruction where
  read := byFormat .record Instruction.registerRecord.form Instruction.immediateRecord.form
    Instruction.branchRecord.form Instruction.memoryRecord.form
    (fun (op, rd, rn, rm, shift, amount, ()) => .register op rd rn rm shift amount)
    (fun (op, rd, rn, value, ()) => .immediate op rd rn value)
    (fun (op, offset, ()) => .branch op offset)
    (fun (op, rd, rn, mode, offset, ()) => .memory op rd rn mode offset)
  write
    | .register op rd rn rm shift amount =>
      tagged Format.register.label
        (Instruction.registerRecord.write (op, rd, rn, rm, shift, amount, ()))
    | .immediate op rd rn value =>
      tagged Format.immediate.label (Instruction.immediateRecord.write (op, rd, rn, value, ()))
    | .branch op offset =>
      tagged Format.branch.label (Instruction.branchRecord.write (op, offset, ()))
    | .memory op rd rn mode offset =>
      tagged Format.memory.label (Instruction.memoryRecord.write (op, rd, rn, mode, offset, ()))

end WordCodec
