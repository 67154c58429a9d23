import WordCodec.Payload
import WordCodec.Checked

/-!
# Instructions

An instruction is a defined operation with exactly the operands of its format.  Packing one is
total; reading one from a word is not, because an opcode may name no operation and a mode field no
addressing mode.

* `Instruction.encode` — the word of an instruction.
* `Instruction.ofWord`, `Instruction.ofPayload` — the instruction of a word or of its payload.
* `Instruction.normal` — the instruction that is left of an instruction when its operands are cut
  down to their fields.
-/

namespace WordCodec

/-- A defined operation with its operands. -/
inductive Instruction where
  /-- Of the amount only the low six bits are packed. -/
  | register (op : RegisterOp) (rd rn rm : Register) (shift : Shift) (amount : UInt8)
  /-- Of the immediate only the low 34 bits are packed. -/
  | immediate (op : ImmediateOp) (rd rn : Register) (immediate : UInt64)
  /-- Of the offset only the low 48 bits are packed. -/
  | branch (op : BranchOp) (offset : UInt64)
  /-- Of the offset only the low 32 bits are packed. -/
  | memory (op : MemoryOp) (rd rn : Register) (mode : MemoryMode) (offset : UInt64)
  deriving DecidableEq, Repr

namespace Instruction

/-- A register-format instruction without shift. -/
def unshifted (op : RegisterOp) (rd rn rm : Register) : Instruction :=
  register op rd rn rm .standard 0

/-- A memory-format instruction in the standard addressing mode. -/
def atOffset (op : MemoryOp) (rd rn : Register) (offset : UInt64) : Instruction :=
  memory op rd rn .standard offset

/-- The operation. -/
def operation : Instruction → Operation
  | register op .. => .register op
  | immediate op .. => .immediate op
  | branch op _ => .branch op
  | memory op .. => .memory op

/-- **Packing.**  The word of an instruction. -/
def encode : Instruction → Word
  | register op rd rn rm shift amount => op.packShifted rd.bits rn.bits rm.bits shift amount
  | immediate op rd rn value => op.pack rd.bits rn.bits value
  | branch op offset => op.pack offset
  | memory op rd rn mode offset => op.packMode rd.bits rn.bits mode offset

/-- The instruction with its one wide operand cut down to the field it is packed into. -/
def normal : Instruction → Instruction
  | register op rd rn rm shift amount =>
    register op rd rn rm shift (amount % 0x40)
  | immediate op rd rn value => immediate op rd rn (value % 0x400000000)
  | branch op offset => branch op (offset % 0x1000000000000)
  | memory op rd rn mode offset => memory op rd rn mode (offset % 0x100000000)

/-- **From payload to instruction.**  The opcode has to name an operation, the operation has to be
of the payload's format, and the addressing mode has to be defined; the first of these that fails
is the error.  Operands are taken over as they are. -/
def ofPayload (payload : Payload) : Checked Instruction :=
  match payload.operation? with
  | none => do
    Checked.note (.noOperation payload.opcode)
    Checked.fail (.unknownOpcode payload.opcode)
  | some operation =>
    match operation, payload with
    | .register op, .register f => pure (register op f.rd f.rn f.rm f.shift f.amount)
    | .immediate op, .immediate f => pure (immediate op f.rd f.rn f.immediate)
    | .branch op, .branch f => pure (branch op f.offset)
    | .memory op, .memory f => do
      let mode ← Checked.ofExcept (MemoryMode.ofBits f.mode)
      pure (memory op f.rd f.rn mode f.offset)
    | operation, payload =>
      Checked.fail (.formatMismatch payload.opcode payload.format operation.format)

/-- The instruction that a word holds. -/
def ofWord (word : Word) : Checked Instruction := ofPayload (Word.decode word)

end Instruction

end WordCodec
