/-!
# Shifts of the last register operand

A register-format operation may shift its last operand before using it.  The two bits of the
shift type name four shifts, so every value is defined.
-/

namespace WordCodec

/-- What is done to the last register operand. -/
inductive Shift where
  /-- Logical shift left. -/
  | lsl
  /-- Logical shift right. -/
  | lsr
  /-- Arithmetic shift right. -/
  | asr
  /-- Rotation to the right. -/
  | ror
  deriving DecidableEq, Repr

namespace Shift

/-- The shifts in the order of their codes. -/
def all : List Shift := [lsl, lsr, asr, ror]

/-- The shift of an operand for which none is given. -/
def standard : Shift := lsl

/-- The two-bit code. -/
def bits : Shift → UInt8
  | lsl => 0
  | lsr => 1
  | asr => 2
  | ror => 3

/-- The shift whose code stands in the low two bits of `bits`. -/
def ofBits (bits : UInt8) : Shift :=
  match (bits &&& 3).toNat with
  | 0 => lsl
  | 1 => lsr
  | 2 => asr
  | _ => ror

/-- The mnemonic. -/
def mnemonic : Shift → String
  | lsl => "LSL"
  | lsr => "LSR"
  | asr => "ASR"
  | ror => "ROR"

/-- The name used in JSON. -/
def label : Shift → String
  | lsl => "Lsl"
  | lsr => "Lsr"
  | asr => "Asr"
  | ror => "Ror"

end Shift

end WordCodec
