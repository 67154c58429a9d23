import WordCodec.Config
import WordCodec.Instruction

/-!
# Checked encoding

The builders of words cut wide operands down silently.  The encoder is the layer above them
for callers to whom that would be a bug: depending on its policy it **logs** every operand it cuts
down, or **refuses** the first that does not fit.

* `checkOperand`, `checkFormat` — the two checks.
* `Encoder.accept` — the policy applied to one operand; every operand goes through it.
* `Encoder.register`, … `Encoder.memory` — the checked builders.
* `Encoder.encode` — a typed instruction; `Encoder.encodeRaw` — an opcode with operands of any
  format.

Operands are checked from left to right, and nothing is checked after a refusal.
-/

namespace WordCodec

/-- The value, if it fits the field. -/
def checkOperand (field : Field) (value : UInt64) : Except CodecError UInt64 :=
  if fits value field.width then .ok value
  else .error (.operandOutOfRange field value field.width)

/-- The format of the opcode, if it is the expected one. -/
def checkFormat (opcode : UInt16) (expected : Format) : Except CodecError Format :=
  let actual := Format.ofOpcode opcode
  if actual = expected then .ok actual
  else .error (.formatMismatch opcode expected actual)

/-- Operands that come with an opcode instead of an operation. -/
inductive Operands where
  | register (rd rn rm : UInt64)
  | immediate (rd rn immediate : UInt64)
  | branch (offset : UInt64)
  | memory (rd rn offset : UInt64)
  deriving DecidableEq, Repr

/-- The format to which the operands belong. -/
def Operands.format : Operands → Format
  | register .. => .register
  | immediate .. => .immediate
  | branch _ => .branch
  | memory .. => .memory

/-- A builder of words with a policy for wide operands. -/
structure Encoder where
  policy : OperandPolicy := .truncate
  deriving DecidableEq, Repr

namespace Encoder

/-- The encoder that cuts wide operands down. -/
def standard : Encoder := {}

/-- The encoder that refuses wide operands. -/
def strict : Encoder := ⟨.reject⟩

/-- The encoder that a configuration asks for. -/
def ofConfig (config : Config) : Encoder := ⟨config.operandPolicy⟩

/-- **The policy, applied to one operand.**  The value to pack; the log tells if it is not the one
given, or why there is none. -/
def accept (encoder : Encoder) (field : Field) (value : UInt64) : Checked UInt64 :=
  match encoder.policy with
  | .reject =>
    match checkOperand field value with
    | .ok value => pure value
    | .error error => do
      Checked.note (.rejecting field value field.width)
      Checked.fail error
  | .truncate => do
    let kept := truncate value field.width
    if kept ≠ value then
      Checked.note (.truncating field value kept field.width)
    pure kept

/-- An accepted operand of at most eight bits. -/
def acceptNarrow (encoder : Encoder) (field : Field) (value : UInt64) : Checked UInt8 := do
  let kept ← encoder.accept field value
  pure kept.toUInt8

/-- The word of a register-format operation whose last operand is shifted. -/
def registerShifted (encoder : Encoder) (op : RegisterOp) (rd rn rm : UInt64) (shift : Shift)
    (amount : UInt64) : Checked Word := do
  let rd ← encoder.acceptNarrow .rd rd
  let rn ← encoder.acceptNarrow .rn rn
  let rm ← encoder.acceptNarrow .rm rm
  let amount ← encoder.acceptNarrow .shiftAmount amount
  pure (op.packShifted rd rn rm shift amount)

/-- The word of a register-format operation. -/
def register (encoder : Encoder) (op : RegisterOp) (rd rn rm : UInt64) : Checked Word :=
  encoder.registerShifted op rd rn rm .standard 0

/-- The word of an immediate-format operation. -/
def immediate (encoder : Encoder) (op : ImmediateOp) (rd rn value : UInt64) : Checked Word := do
  let rd ← encoder.acceptNarrow .rd rd
  let rn ← encoder.acceptNarrow .rn rn
  let value ← encoder.accept .immediate value
  pure (op.pack rd rn value)

/-- The word of a branch-format operation. -/
def branch (encoder : Encoder) (op : BranchOp) (offset : UInt64) : Checked Word := do
  let offset ← encoder.accept .branchOffset offset
  pure (op.pack offset)

/-- The word of a memory-format operation. -/
def memory (encoder : Encoder) (op : MemoryOp) (rd rn : UInt64) (mode : MemoryMode)
    (offset : UInt64) : Checked Word := do
  let rd ← encoder.acceptNarrow .rd rd
  let rn ← encoder.acceptNarrow .rn rn
  let offset ← encoder.accept .memoryOffset offset
  pure (op.packMode rd rn mode offset)

/-- The word of an instruction.  Its registers always fit; the other operands may not. -/
def encode (encoder : Encoder) : Instruction → Checked Word
  | .register op rd rn rm shift amount =>
    encoder.registerShifted op rd.bits.toUInt64 rn.bits.toUInt64 rm.bits.toUInt64 shift
      amount.toUInt64
  | .immediate op rd rn value =>
    encoder.immediate op rd.bits.toUInt64 rn.bits.toUInt64 value
  | .branch op offset => encoder.branch op offset
  | .memory op rd rn mode offset =>
    encoder.memory op rd.bits.toUInt64 rn.bits.toUInt64 mode offset

/-- **An opcode with operands.**  The tag of the opcode has to select the format of the operands,
and the opcode has to name an operation, before any operand is looked at.  Shift and addressing
mode are the standard ones. -/
def encodeRaw (encoder : Encoder) (opcode : UInt16) (operands : Operands) : Checked Word := do
  let _ ← Checked.ofExcept (checkFormat opcode operands.format)
  let operation ← Checked.ofExcept (Operation.ofRaw opcode)
  match operation, operands with
  | .register op, .register rd rn rm => encoder.register op rd rn rm
  | .immediate op, .immediate rd rn value => encoder.immediate op rd rn value
  | .branch op, .branch offset => encoder.branch op offset
  | .memory op, .memory rd rn offset => encoder.memory op rd rn .standard offset
  | operation, operands =>
    Checked.fail (.formatMismatch opcode operands.format operation.format)

end Encoder

end WordCodec
