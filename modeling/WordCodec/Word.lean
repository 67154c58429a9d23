import WordCodec.Machine.Operation
import WordCodec.Machine.Shift
import WordCodec.Machine.MemoryMode

/-!
# Packing and reading words

The unchecked layer: words are packed from operands and read field by field.

* `RegisterOp.pack`, `RegisterOp.packShifted`, `ImmediateOp.pack`, `BranchOp.pack`,
  `MemoryOp.pack`, `MemoryOp.packMode` — one builder per layout.  The operation fixes the opcode,
  so an opcode never meets the operands of another format.
* `Word.opcode`, `Word.rd`, … — the value of each field.  Where a field ends at the bottom of the
  word, its mask is all it takes.

**Both directions are total.**  An operand wider than its field loses its high bits.  A field that
a word's format does not define reads as whatever bits stand there; nothing is sign extended.
-/

namespace WordCodec

/-- An opcode in its place. -/
def opcodeBits (raw : UInt16) : Word := Field.opcode.put raw.toUInt64

/-- The first two register operands in their places. -/
def registerBits (rd rn : UInt8) : Word := Field.rd.put rd.toUInt64 ||| Field.rn.put rn.toUInt64

/-- The word of a register-format operation; of each register the low five bits count. -/
def RegisterOp.pack (op : RegisterOp) (rd rn rm : UInt8) : Word :=
  opcodeBits op.raw ||| registerBits rd rn ||| Field.rm.put rm.toUInt64

/-- The word of a register-format operation whose last operand is shifted; of the amount the low
six bits count. -/
def RegisterOp.packShifted (op : RegisterOp) (rd rn rm : UInt8) (shift : Shift) (amount : UInt8) :
    Word :=
  op.pack rd rn rm ||| Field.shiftType.put shift.bits.toUInt64 |||
    Field.shiftAmount.put amount.toUInt64

/-- The word of an immediate-format operation; of the immediate the low 34 bits count. -/
def ImmediateOp.pack (op : ImmediateOp) (rd rn : UInt8) (immediate : UInt64) : Word :=
  opcodeBits op.raw ||| registerBits rd rn ||| Field.immediate.put immediate

/-- The word of a branch-format operation.  The offset is a two's complement number of words, and
its low 48 bits count. -/
def BranchOp.pack (op : BranchOp) (offset : UInt64) : Word :=
  opcodeBits op.raw ||| Field.branchOffset.put offset

/-- The word of a memory-format operation with an addressing mode; of the offset the low 32 bits
count. -/
def MemoryOp.packMode (op : MemoryOp) (rd rn : UInt8) (mode : MemoryMode) (offset : UInt64) :
    Word :=
  opcodeBits op.raw ||| registerBits rd rn ||| Field.mode.put mode.bits.toUInt64 |||
    Field.memoryOffset.put offset

/-- The word of a memory-format operation in the standard addressing mode. -/
def MemoryOp.pack (op : MemoryOp) (rd rn : UInt8) (offset : UInt64) : Word :=
  op.packMode rd rn .standard offset

namespace Word

/-- The opcode, format tag included. -/
def opcode (word : Word) : UInt16 := (Field.opcode.get word).toUInt16

/-- The format that the opcode's tag selects. -/
def format (word : Word) : Format := Format.ofOpcode (opcode word)

/-- The destination register field. -/
def rd (word : Word) : UInt8 := (Field.rd.get word).toUInt8

/-- The first source register field. -/
def rn (word : Word) : UInt8 := (Field.rn.get word).toUInt8

/-- The second source register field. -/
def rm (word : Word) : UInt8 := (Field.rm.get word).toUInt8

/-- The addressing mode field. -/
def mode (word : Word) : UInt8 := (Field.mode.get word).toUInt8

/-- Everything below the addressing mode. -/
def extended (word : Word) : UInt64 := word &&& extendedMask

/-- The immediate. -/
def immediate (word : Word) : UInt64 := word &&& Field.immediate.mask

/-- The branch offset. -/
def branchOffset (word : Word) : UInt64 := word &&& Field.branchOffset.mask

/-- The memory offset. -/
def memoryOffset (word : Word) : UInt64 := word &&& Field.memoryOffset.mask

/-- The shift type field. -/
def shiftType (word : Word) : UInt8 := (Field.shiftType.get word).toUInt8

/-- The shift amount field. -/
def shiftAmount (word : Word) : UInt8 := (Field.shiftAmount.get word).toUInt8

end Word

end WordCodec
