/-!
# Instruction formats

Every opcode is twelve bits wide.  Its top two bits are the **format tag**, which selects one of
four layouts for the rest of the word; the ten bits below it number an operation within the
format.

* `Format` — the four layouts, with their `tag`, their tag in place (`pattern`) and their name.
* `Format.ofOpcode` — the format an opcode's tag selects; every opcode has one.
* `Format.hasTag` — whether an opcode carries a format's tag, asked of one format at a time.
-/

namespace WordCodec

/-- The four mutually exclusive layouts of a word. -/
inductive Format where
  /-- Three registers and an optional shift of the last. -/
  | register
  /-- Two registers and a 34-bit immediate. -/
  | immediate
  /-- A 48-bit offset, counted in words. -/
  | branch
  /-- Two registers, an addressing mode and a 32-bit offset. -/
  | memory
  deriving DecidableEq, Repr

namespace Format

/-- The formats in the order of their tags. -/
def all : List Format := [register, immediate, branch, memory]

/-- Where the format tag stands within an opcode. -/
def tagShift : Nat := 10

/-- The two tag bits of an opcode. -/
def tagMask : UInt16 := 0xC00

/-- The ten bits of an opcode that number its operation. -/
def numberMask : UInt16 := 0x3FF

/-- The two-bit tag. -/
def tag : Format → UInt16
  | register => 0
  | immediate => 1
  | branch => 2
  | memory => 3

/-- The tag where it stands in an opcode. -/
def pattern : Format → UInt16
  | register => 0x000
  | immediate => 0x400
  | branch => 0x800
  | memory => 0xC00

/-- The customary name. -/
def name : Format → String
  | register => "R-type"
  | immediate => "I-type"
  | branch => "B-type"
  | memory => "M-type"

/-- The letter that stands for the format in JSON. -/
def label : Format → String
  | register => "R"
  | immediate => "I"
  | branch => "B"
  | memory => "M"

/-- The format with the tag in the low two bits of `tag`. -/
def ofTag (tag : UInt16) : Format :=
  match (tag &&& 3).toNat with
  | 0 => register
  | 1 => immediate
  | 2 => branch
  | _ => memory

/-- **Classification.**  The format an opcode's tag selects, whatever its other bits are. -/
def ofOpcode (opcode : UInt16) : Format :=
  ofTag ((opcode &&& tagMask) >>> UInt16.ofNat tagShift)

/-- Whether `opcode` carries the tag of `format`. -/
def hasTag (format : Format) (opcode : UInt16) : Bool :=
  opcode &&& tagMask == format.pattern

end Format

end WordCodec
