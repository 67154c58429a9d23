import WordCodec.Word
import WordCodec.Machine.Register

/-!
# Decoded words

Decoding keeps exactly the fields that a word's format defines.  It is total: an opcode without
operation and an undefined addressing mode decode like any other.

* `Payload` — the fields of a word, by format.
* `Word.decode`, `decodeAll` — the payload of one word, or of each of a list.
* `Payload.operation?` — the operation the opcode names, if it names one.
* `signedImmediate`, `signedOffset` — the numbers that immediates and offsets stand for.

**A payload need not come from a word.**  One that was put together by hand may hold an opcode of
another format, a mode of more than three bits or an operand wider than its field.
-/

namespace WordCodec

/-- The fields of a register-format word. -/
structure RegisterFields where
  opcode : UInt16
  rd : Register
  rn : Register
  rm : Register
  /-- What is done to `rm`, for operations that read it through a shift. -/
  shift : Shift
  /-- How far `rm` is shifted. -/
  amount : UInt8
  deriving DecidableEq, Repr

/-- The fields of an immediate-format word. -/
structure ImmediateFields where
  opcode : UInt16
  rd : Register
  rn : Register
  /-- The bit pattern of the immediate. -/
  immediate : UInt64
  deriving DecidableEq, Repr

/-- The fields of a branch-format word. -/
structure BranchFields where
  opcode : UInt16
  /-- The bit pattern of the offset, which counts words. -/
  offset : UInt64
  deriving DecidableEq, Repr

/-- The fields of a memory-format word. -/
structure MemoryFields where
  opcode : UInt16
  /-- The register that is loaded or stored. -/
  rd : Register
  /-- The base of the address. -/
  rn : Register
  /-- The code of the addressing mode, defined or not. -/
  mode : UInt8
  /-- The bit pattern of the offset. -/
  offset : UInt64
  deriving DecidableEq, Repr

/-- The immediate as a signed number of 34 bits. -/
def ImmediateFields.signedImmediate (fields : ImmediateFields) : Int64 :=
  signExtend fields.immediate Field.immediate.width

/-- The offset as a signed number of 48 bits, in words. -/
def BranchFields.signedOffset (fields : BranchFields) : Int64 :=
  signExtend fields.offset Field.branchOffset.width

/-- The offset as a signed number of 32 bits. -/
def MemoryFields.signedOffset (fields : MemoryFields) : Int64 :=
  signExtend fields.offset Field.memoryOffset.width

/-- The addressing mode, if its code is defined. -/
def MemoryFields.memoryMode? (fields : MemoryFields) : Option MemoryMode :=
  MemoryMode.ofBits? fields.mode

/-- A decoded word: the fields of its format. -/
inductive Payload where
  | register (fields : RegisterFields)
  | immediate (fields : ImmediateFields)
  | branch (fields : BranchFields)
  | memory (fields : MemoryFields)
  deriving DecidableEq, Repr

namespace Payload

/-- The opcode. -/
def opcode : Payload → UInt16
  | register fields => fields.opcode
  | immediate fields => fields.opcode
  | branch fields => fields.opcode
  | memory fields => fields.opcode

/-- The format whose fields these are. -/
def format : Payload → Format
  | register _ => .register
  | immediate _ => .immediate
  | branch _ => .branch
  | memory _ => .memory

/-- The operation that the opcode names, if it names one. -/
def operation? (payload : Payload) : Option Operation := Operation.ofRaw? payload.opcode

end Payload

/-- **Decoding.**  The fields that the format of `word` defines. -/
def Word.decode (word : Word) : Payload :=
  match Word.format word with
  | .register => .register
    { opcode := Word.opcode word
      rd := Register.ofBits (Word.rd word)
      rn := Register.ofBits (Word.rn word)
      rm := Register.ofBits (Word.rm word)
      shift := Shift.ofBits (Word.shiftType word)
      amount := Word.shiftAmount word }
  | .immediate => .immediate
    { opcode := Word.opcode word
      rd := Register.ofBits (Word.rd word)
      rn := Register.ofBits (Word.rn word)
      immediate := Word.immediate word }
  | .branch => .branch
    { opcode := Word.opcode word
      offset := Word.branchOffset word }
  | .memory => .memory
    { opcode := Word.opcode word
      rd := Register.ofBits (Word.rd word)
      rn := Register.ofBits (Word.rn word)
      mode := Word.mode word
      offset := Word.memoryOffset word }

/-- The payload of every word of a program. -/
def decodeAll (words : List Word) : List Payload := words.map Word.decode

end WordCodec
