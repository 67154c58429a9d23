import WordCodec.Numeral

/-!
# Registers

A register field is five bits wide, and each of its 32 values names a general-purpose register:
`x0` to `x30`, and `sp` for the last.

* `Register.ofBits` — the register of a field value; only the low five bits count.
* `Register.name` — the assembler name.
* `isZero`, `isArgument`, `isTemporary`, `isCalleeSaved` — the roles of the calling convention.
-/

namespace WordCodec

/-- A general-purpose register, by its index in the register file. -/
structure Register where
  /-- The index, which is also the value of a register field. -/
  index : Fin 32
  deriving DecidableEq, Repr

namespace Register

/-- The registers in the order of their indices. -/
def all : List Register := (List.finRange 32).map Register.mk

/-- The register that always reads as zero. -/
def zr : Register := ⟨0⟩

/-- The frame pointer. -/
def fp : Register := ⟨29⟩

/-- The link register. -/
def lr : Register := ⟨30⟩

/-- The stack pointer. -/
def sp : Register := ⟨31⟩

/-- The register a field value names; bits above the low five are ignored. -/
def ofBits (bits : UInt8) : Register := ⟨Fin.ofNat 32 bits.toNat⟩

/-- The value of a register field. -/
def bits (register : Register) : UInt8 := UInt8.ofNat register.index.val

/-- The assembler name: `x` and the index, but `sp` for the stack pointer. -/
def name (register : Register) : String :=
  if register = sp then "sp" else "x" ++ Numeral.decimal register.index.val

/-- The name used in JSON. -/
def label (register : Register) : String :=
  if register = sp then "Sp" else "X" ++ Numeral.decimal register.index.val

/-- Whether the register always reads as zero. -/
def isZero (register : Register) : Bool := register = zr

/-- Whether the register passes one of the six arguments. -/
def isArgument (register : Register) : Bool :=
  3 ≤ register.index.val && register.index.val ≤ 8

/-- Whether the register is a temporary. -/
def isTemporary (register : Register) : Bool :=
  9 ≤ register.index.val && register.index.val ≤ 15

/-- Whether a callee has to restore the register. -/
def isCalleeSaved (register : Register) : Bool :=
  19 ≤ register.index.val && register.index.val ≤ 28

end Register

end WordCodec
