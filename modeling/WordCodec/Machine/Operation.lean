import WordCodec.Error

/-!
# Operations

Every defined operation has a **twelve-bit opcode**: the tag of its format above a ten-bit number.
The operations of each format form a type of their own, so a register-format operation cannot be
packed with the operands of a branch; `Operation` is their sum.

* `listing` — number, mnemonic and JSON name of every operation, written down once per format.
* `Operation.raw`, `Operation.ofRaw?` — between operations and opcodes.
* `Operation.ofMnemonic` — the operation a mnemonic names, in any ASCII case.
* `Operation.sortMnemonics` — mnemonics in the order of their opcodes.

**Numbers fall into categories**, `category * 64 + index`: data movement 1, arithmetic 2, logic 3,
shifts 4, comparison 5, branches 6, memory 7, stack 8 and system 9.
-/

namespace WordCodec

/-- How an operation is listed. -/
structure Listing where
  /-- The number within the format. -/
  number : UInt16
  /-- The upper-case mnemonic. -/
  mnemonic : String
  /-- The name used in JSON. -/
  label : String

/-- An operation of the register format. -/
inductive RegisterOp where
  | mov
  | add
  | sub
  | mul
  /-- Divide as signed numbers. -/
  | sdiv
  /-- Divide as unsigned numbers. -/
  | udiv
  | and
  | orr
  | eor
  | lsl
  | lsr
  | asr
  | cmp
  /-- Test bits. -/
  | tst
  /-- Branch to a register. -/
  | br
  /-- Branch to a register and link. -/
  | blr
  /-- Return. -/
  | ret
  | hlt
  | nop
  deriving DecidableEq, Repr

namespace RegisterOp

/-- The register-format operations in the order of their numbers. -/
def all : List RegisterOp :=
  [mov, add, sub, mul, sdiv, udiv, and, orr, eor, lsl, lsr, asr, cmp, tst, br, blr, ret,
   hlt, nop]

/-- Number, mnemonic and JSON name of each operation. -/
def listing : RegisterOp → Listing
  | mov => ⟨0x040, "MOV_REG", "MovReg"⟩
  | add => ⟨0x080, "ADD_REG", "AddReg"⟩
  | sub => ⟨0x081, "SUB_REG", "SubReg"⟩
  | mul => ⟨0x082, "MUL", "Mul"⟩
  | sdiv => ⟨0x083, "SDIV", "Sdiv"⟩
  | udiv => ⟨0x084, "UDIV", "Udiv"⟩
  | and => ⟨0x0C0, "AND_REG", "AndReg"⟩
  | orr => ⟨0x0C1, "ORR_REG", "OrrReg"⟩
  | eor => ⟨0x0C2, "EOR_REG", "EorReg"⟩
  | lsl => ⟨0x100, "LSL_REG", "LslReg"⟩
  | lsr => ⟨0x101, "LSR_REG", "LsrReg"⟩
  | asr => ⟨0x102, "ASR_REG", "AsrReg"⟩
  | cmp => ⟨0x140, "CMP_REG", "CmpReg"⟩
  | tst => ⟨0x141, "TST_REG", "TstReg"⟩
  | br => ⟨0x182, "BR", "Br"⟩
  | blr => ⟨0x183, "BLR", "Blr"⟩
  | ret => ⟨0x184, "RET", "Ret"⟩
  | hlt => ⟨0x241, "HLT", "Hlt"⟩
  | nop => ⟨0x242, "NOP", "Nop"⟩

/-- The number within the format. -/
def number (op : RegisterOp) : UInt16 := op.listing.number

/-- The twelve-bit opcode. -/
def raw (op : RegisterOp) : UInt16 := Format.register.pattern ||| op.number

/-- The upper-case mnemonic. -/
def mnemonic (op : RegisterOp) : String := op.listing.mnemonic

/-- The name used in JSON. -/
def label (op : RegisterOp) : String := op.listing.label

/-- The operation with the given number, if there is one. -/
def ofNumber? (number : UInt16) : Option RegisterOp := all.find? (·.number == number)

/-- Whether the operation reads its last operand through a shift. -/
def takesShifted : RegisterOp → Bool
  | add | sub | and | orr | eor | cmp | tst => true
  | _ => false

end RegisterOp

/-- An operation of the immediate format. -/
inductive ImmediateOp where
  | mov
  /-- Load an immediate and clear the rest. -/
  | movz
  /-- Load an immediate and keep the rest. -/
  | movk
  | add
  | sub
  | and
  | orr
  | eor
  | lsl
  | lsr
  | asr
  | cmp
  /-- Test bits. -/
  | tst
  /-- Call the supervisor. -/
  | svc
  deriving DecidableEq, Repr

namespace ImmediateOp

/-- The immediate-format operations in the order of their numbers. -/
def all : List ImmediateOp :=
  [mov, movz, movk, add, sub, and, orr, eor, lsl, lsr, asr, cmp, tst, svc]

/-- Number, mnemonic and JSON name of each operation. -/
def listing : ImmediateOp → Listing
  | mov => ⟨0x040, "MOV_IMM", "MovImm"⟩
  | movz => ⟨0x041, "MOVZ", "Movz"⟩
  | movk => ⟨0x042, "MOVK", "Movk"⟩
  | add => ⟨0x080, "ADD_IMM", "AddImm"⟩
  | sub => ⟨0x081, "SUB_IMM", "SubImm"⟩
  | and => ⟨0x0C0, "AND_IMM", "AndImm"⟩
  | orr => ⟨0x0C1, "ORR_IMM", "OrrImm"⟩
  | eor => ⟨0x0C2, "EOR_IMM", "EorImm"⟩
  | lsl => ⟨0x100, "LSL_IMM", "LslImm"⟩
  | lsr => ⟨0x101, "LSR_IMM", "LsrImm"⟩
  | asr => ⟨0x102, "ASR_IMM", "AsrImm"⟩
  | cmp => ⟨0x140, "CMP_IMM", "CmpImm"⟩
  | tst => ⟨0x141, "TST_IMM", "TstImm"⟩
  | svc => ⟨0x240, "SVC", "Svc"⟩

/-- The number within the format. -/
def number (op : ImmediateOp) : UInt16 := op.listing.number

/-- The twelve-bit opcode. -/
def raw (op : ImmediateOp) : UInt16 := Format.immediate.pattern ||| op.number

/-- The upper-case mnemonic. -/
def mnemonic (op : ImmediateOp) : String := op.listing.mnemonic

/-- The name used in JSON. -/
def label (op : ImmediateOp) : String := op.listing.label

/-- The operation with the given number, if there is one. -/
def ofNumber? (number : UInt16) : Option ImmediateOp := all.find? (·.number == number)

end ImmediateOp

/-- An operation of the branch format. -/
inductive BranchOp where
  | b
  | bl
  /-- Branch on a condition. -/
  | bCond
  /-- Branch if zero. -/
  | cbz
  /-- Branch if not zero. -/
  | cbnz
  /-- Branch if a bit is clear. -/
  | tbz
  /-- Branch if a bit is set. -/
  | tbnz
  deriving DecidableEq, Repr

namespace BranchOp

/-- The branch-format operations in the order of their numbers. -/
def all : List BranchOp :=
  [b, bl, bCond, cbz, cbnz, tbz, tbnz]

/-- Number, mnemonic and JSON name of each operation. -/
def listing : BranchOp → Listing
  | b => ⟨0x180, "B", "B"⟩
  | bl => ⟨0x181, "BL", "Bl"⟩
  | bCond => ⟨0x190, "B_COND", "BCond"⟩
  | cbz => ⟨0x191, "CBZ", "Cbz"⟩
  | cbnz => ⟨0x192, "CBNZ", "Cbnz"⟩
  | tbz => ⟨0x193, "TBZ", "Tbz"⟩
  | tbnz => ⟨0x194, "TBNZ", "Tbnz"⟩

/-- The number within the format. -/
def number (op : BranchOp) : UInt16 := op.listing.number

/-- The twelve-bit opcode. -/
def raw (op : BranchOp) : UInt16 := Format.branch.pattern ||| op.number

/-- The upper-case mnemonic. -/
def mnemonic (op : BranchOp) : String := op.listing.mnemonic

/-- The name used in JSON. -/
def label (op : BranchOp) : String := op.listing.label

/-- The operation with the given number, if there is one. -/
def ofNumber? (number : UInt16) : Option BranchOp := all.find? (·.number == number)

end BranchOp

/-- An operation of the memory format. -/
inductive MemoryOp where
  | ldr
  | str
  | ldrb
  | strb
  | ldrh
  | strh
  /-- Load a word and extend its sign. -/
  | ldrsw
  | push
  | pop
  deriving DecidableEq, Repr

namespace MemoryOp

/-- The memory-format operations in the order of their numbers. -/
def all : List MemoryOp :=
  [ldr, str, ldrb, strb, ldrh, strh, ldrsw, push, pop]

/-- Number, mnemonic and JSON name of each operation. -/
def listing : MemoryOp → Listing
  | ldr => ⟨0x1C0, "LDR", "Ldr"⟩
  | str => ⟨0x1C1, "STR", "Str"⟩
  | ldrb => ⟨0x1C2, "LDRB", "Ldrb"⟩
  | strb => ⟨0x1C3, "STRB", "Strb"⟩
  | ldrh => ⟨0x1C4, "LDRH", "Ldrh"⟩
  | strh => ⟨0x1C5, "STRH", "Strh"⟩
  | ldrsw => ⟨0x1C6, "LDRSW", "Ldrsw"⟩
  | push => ⟨0x200, "PUSH", "Push"⟩
  | pop => ⟨0x201, "POP", "Pop"⟩

/-- The number within the format. -/
def number (op : MemoryOp) : UInt16 := op.listing.number

/-- The twelve-bit opcode. -/
def raw (op : MemoryOp) : UInt16 := Format.memory.pattern ||| op.number

/-- The upper-case mnemonic. -/
def mnemonic (op : MemoryOp) : String := op.listing.mnemonic

/-- The name used in JSON. -/
def label (op : MemoryOp) : String := op.listing.label

/-- The operation with the given number, if there is one. -/
def ofNumber? (number : UInt16) : Option MemoryOp := all.find? (·.number == number)

end MemoryOp

/-- **Comparison without case.**  Whether two texts are the same once every ASCII capital is made
small.  No other character has a small letter here. -/
def eqIgnoringCase : List Char → List Char → Bool
  | [], [] => true
  | c :: text, d :: other => c.toLower == d.toLower && eqIgnoringCase text other
  | _, _ => false

/-- A defined operation of any format. -/
inductive Operation where
  | register (op : RegisterOp)
  | immediate (op : ImmediateOp)
  | branch (op : BranchOp)
  | memory (op : MemoryOp)
  deriving DecidableEq, Repr

namespace Operation

/-- Every defined operation, format by format. -/
def all : List Operation :=
  RegisterOp.all.map register ++ ImmediateOp.all.map immediate ++
    BranchOp.all.map branch ++ MemoryOp.all.map memory

/-- The format. -/
def format : Operation → Format
  | register _ => .register
  | immediate _ => .immediate
  | branch _ => .branch
  | memory _ => .memory

/-- The number within the format. -/
def number : Operation → UInt16
  | register op => op.number
  | immediate op => op.number
  | branch op => op.number
  | memory op => op.number

/-- The upper-case mnemonic. -/
def mnemonic : Operation → String
  | register op => op.mnemonic
  | immediate op => op.mnemonic
  | branch op => op.mnemonic
  | memory op => op.mnemonic

/-- The twelve-bit opcode. -/
def raw (op : Operation) : UInt16 := op.format.pattern ||| op.number

/-- Whether the operation reads its last operand through a shift, which only the register format
has. -/
def takesShifted? : Operation → Option Bool
  | register op => some op.takesShifted
  | _ => none

/-- The operation of `format` with the given number, if there is one. -/
def ofNumber? (format : Format) (number : UInt16) : Option Operation :=
  match format with
  | .register => (RegisterOp.ofNumber? number).map register
  | .immediate => (ImmediateOp.ofNumber? number).map immediate
  | .branch => (BranchOp.ofNumber? number).map branch
  | .memory => (MemoryOp.ofNumber? number).map memory

/-- The operation with the opcode `raw`, if there is one.  What is wider than twelve bits is no
opcode. -/
def ofRaw? (raw : UInt16) : Option Operation :=
  if 0xFFF < raw then none
  else ofNumber? (Format.ofOpcode raw) (raw &&& Format.numberMask)

/-- The operation with the opcode `raw`, or the error that there is none. -/
def ofRaw (raw : UInt16) : Except CodecError Operation :=
  match ofRaw? raw with
  | some op => .ok op
  | none => .error (.unknownOpcode raw)

/-- Whether `text` is the operation's mnemonic, in any ASCII case. -/
def hasMnemonic (op : Operation) (text : String) : Bool :=
  eqIgnoringCase op.mnemonic.toList text.toList

/-- **Lookup by mnemonic.**  The first operation that has `text` for its mnemonic; nothing is
trimmed. -/
def ofMnemonic (text : String) : Except CodecError Operation :=
  match all.find? (·.hasMnemonic text) with
  | some op => .ok op
  | none => .error (.unknownMnemonic text)

/-- The operations that the mnemonics name, in the order of their opcodes; the first mnemonic
without an operation is the error. -/
def sortMnemonics (texts : List String) : Except CodecError (List Operation) :=
  (texts.mapM ofMnemonic).map (·.mergeSort (·.raw ≤ ·.raw))

end Operation

end WordCodec
