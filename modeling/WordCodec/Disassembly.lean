import WordCodec.Config
import WordCodec.Instruction

/-!
# Disassembly

A word as a line of text, for people to read.  Every word has one: an opcode without operation and
an undefined addressing mode are shown as such.

* `disassembleWith` — the line under a configuration; `disassemble` — under the standard one.
* `Instruction.text` — the line of an instruction, which is that of its word.

**What is not shown:** the operands of `HLT` and `NOP`, the registers of `SVC`, a shift by zero,
and bits outside the fields of the format.  An offset of zero is shown unless the mode is the plain
one.
-/

namespace WordCodec

/-- The line of a register-format word. -/
def RegisterFields.text (op : RegisterOp) (fields : RegisterFields) : String :=
  match op with
  | .hlt | .nop => op.mnemonic
  | _ =>
    let operands := op.mnemonic ++ " " ++ fields.rd.name ++ ", " ++ fields.rn.name ++ ", " ++
      fields.rm.name
    if fields.amount = 0 then operands
    else operands ++ ", " ++ fields.shift.mnemonic ++ " #" ++
      Numeral.decimal fields.amount.toNat

/-- The line of an immediate-format word, with the immediate in signed decimal or in unsigned
hexadecimal. -/
def ImmediateFields.text (signed : Bool) (op : ImmediateOp) (fields : ImmediateFields) : String :=
  let value :=
    if signed then "#" ++ Numeral.signedDecimal fields.signedImmediate.toInt
    else "#" ++ Numeral.hex fields.immediate.toNat
  match op with
  | .svc => op.mnemonic ++ " " ++ value
  | _ => op.mnemonic ++ " " ++ fields.rd.name ++ ", " ++ fields.rn.name ++ ", " ++ value

/-- The line of a branch-format word; the offset is always signed. -/
def BranchFields.text (op : BranchOp) (fields : BranchFields) : String :=
  op.mnemonic ++ " #" ++ Numeral.signedDecimal fields.signedOffset.toInt

/-- The address of a memory-format word. -/
def MemoryFields.address (fields : MemoryFields) : String :=
  let base := "[" ++ fields.rn.name
  let offset := "#" ++ Numeral.hex fields.offset.toNat
  match fields.memoryMode? with
  | some .offset =>
    if fields.offset = 0 then base ++ "]" else base ++ ", " ++ offset ++ "]"
  | some .preIndex => base ++ ", " ++ offset ++ "]!"
  | some .postIndex => base ++ "], " ++ offset
  | some mode => base ++ ", " ++ offset ++ "] (" ++ mode.name ++ ")"
  | none => base ++ ", " ++ offset ++ "] (mode " ++ Numeral.decimal fields.mode.toNat ++ ")"

/-- The line of a memory-format word. -/
def MemoryFields.text (op : MemoryOp) (fields : MemoryFields) : String :=
  op.mnemonic ++ " " ++ fields.rd.name ++ ", " ++ fields.address

/-- The line of an opcode without operation. -/
def unknownText (opcode : UInt16) : String :=
  "<unknown opcode " ++ opcodeText opcode ++ ">"

/-- The line of a payload, if its opcode names an operation of its format. -/
def Payload.text (config : Config) (payload : Payload) : String :=
  match payload.operation?, payload with
  | some (.register op), .register fields => fields.text op
  | some (.immediate op), .immediate fields => fields.text config.signExtendImmediates op
  | some (.branch op), .branch fields => fields.text op
  | some (.memory op), .memory fields => fields.text op
  | _, _ => unknownText payload.opcode

/-- The line of a word under a configuration. -/
def disassembleWith (config : Config) (word : Word) : String := (Word.decode word).text config

/-- The line of a word under the standard configuration. -/
def disassemble (word : Word) : String := disassembleWith Config.standard word

/-- The line of an instruction. -/
def Instruction.text (instruction : Instruction) : String := disassemble instruction.encode

end WordCodec
