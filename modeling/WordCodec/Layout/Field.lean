import WordCodec.Layout.Bits
import WordCodec.Layout.Format

/-!
# The layout of a word

Each operand stands at a fixed place, its `Field`: a position and a width.  Builders and readers
both go through this one description.

```text
bit 63        52 51   47 46   42 41   37 36  34 33                    0
+--------------+-------+-------+-------+------+------------------------+
|   opcode(12) | rd(5) | rn(5) | rm(5) |mode(3)|     extended(34)      |
+--------------+-------+-------+-------+------+------------------------+
```

* `Field.shift`, `Field.width`, `Field.mask` — where a field stands.  A mask is written out beside
  its width; `Field.mask_eq_lowMask` says that the two agree.
* `Field.put`, `Field.get` — a word with just that field filled in, and a field's value in a word.
* `Format.fields` — the fields a format defines; `Format.mask` is every bit they cover.

**Fields overlap across formats.**  The branch offset covers the two source registers and the
mode, and the shift lies within the immediate; within one format they never do.
-/

namespace WordCodec

/-- An instruction word. -/
abbrev Word := UInt64

/-- The size of a word in bytes. -/
def wordBytes : Nat := 8

/-- A named bit range of a word. -/
inductive Field where
  | opcode
  | rd
  | rn
  | rm
  | mode
  | shiftType
  | shiftAmount
  | immediate
  | branchOffset
  | memoryOffset
  deriving DecidableEq, Repr

namespace Field

/-- The fields from the top of the word down, those of single formats last. -/
def all : List Field :=
  [opcode, rd, rn, rm, mode, shiftType, shiftAmount, immediate, branchOffset, memoryOffset]

/-- The number of bits. -/
def width : Field → Nat
  | opcode => 12
  | rd | rn | rm => 5
  | mode => 3
  | shiftType => 2
  | shiftAmount => 6
  | immediate => 34
  | branchOffset => 48
  | memoryOffset => 32

/-- The position of the lowest bit. -/
def shift : Field → Nat
  | opcode => 52
  | rd => 47
  | rn => 42
  | rm => 37
  | mode => 34
  | shiftType => 32
  | shiftAmount => 26
  | immediate | branchOffset | memoryOffset => 0

/-- The name used in messages. -/
def name : Field → String
  | opcode => "opcode"
  | rd => "rd"
  | rn => "rn"
  | rm => "rm"
  | mode => "mode"
  | shiftType => "shift_type"
  | shiftAmount => "shift_amount"
  | immediate => "immediate"
  | branchOffset => "branch_offset"
  | memoryOffset => "memory_offset"

/-- The name used in JSON. -/
def label : Field → String
  | opcode => "Opcode"
  | rd => "Rd"
  | rn => "Rn"
  | rm => "Rm"
  | mode => "Mode"
  | shiftType => "ShiftType"
  | shiftAmount => "ShiftAmount"
  | immediate => "Immediate"
  | branchOffset => "BranchOffset"
  | memoryOffset => "MemoryOffset"

/-- The field's bits, moved down to the bottom of the word. -/
def mask : Field → UInt64
  | opcode => 0xFFF
  | rd | rn | rm => 0x1F
  | mode => 0x7
  | shiftType => 0x3
  | shiftAmount => 0x3F
  | immediate => 0x3FFFFFFFF
  | branchOffset => 0xFFFFFFFFFFFF
  | memoryOffset => 0xFFFFFFFF

/-- A field's mask has as many ones as the field has bits. -/
theorem mask_eq_lowMask (field : Field) : field.mask = lowMask field.width := by
  cases field <;> decide

/-- The word whose `field` holds the low bits of `value`, and whose other bits are clear. -/
def put (field : Field) (value : UInt64) : Word := place value field.shift field.width

/-- The value of `field` in `word`. -/
def get (field : Field) (word : Word) : UInt64 := extract word field.shift field.width

end Field

/-- The region below the mode, which the formats divide each in its own way. -/
def extendedShift : Nat := 0

/-- The width of the region below the mode. -/
def extendedWidth : Nat := 34

/-- The bits of the region below the mode. -/
def extendedMask : UInt64 := 0x3FFFFFFFF

theorem extendedMask_eq_lowMask : extendedMask = lowMask extendedWidth := by decide

namespace Format

/-- The fields of a format, the opcode included. -/
def fields : Format → List Field
  | register => [.opcode, .rd, .rn, .rm, .shiftType, .shiftAmount]
  | immediate => [.opcode, .rd, .rn, .immediate]
  | branch => [.opcode, .branchOffset]
  | memory => [.opcode, .rd, .rn, .mode, .memoryOffset]

/-- Every bit a format defines; the others are stray. -/
def mask (format : Format) : Word :=
  format.fields.foldr (fun field bits => field.put (-1) ||| bits) 0

end Format

end WordCodec
