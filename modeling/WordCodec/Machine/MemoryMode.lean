import WordCodec.Error

/-!
# Addressing modes

A memory-format word says in three bits how its address is formed.  Five of the eight values are
defined.

* `MemoryMode.ofBits?`, `MemoryMode.ofBits` — the mode of a field value, or that it has none.
* `MemoryMode.writesBack` — whether the base register receives the new address.
-/

namespace WordCodec

/-- How the address of a memory operation is formed. -/
inductive MemoryMode where
  /-- The base and the offset. -/
  | offset
  /-- The base and the offset; the base is updated before the access. -/
  | preIndex
  /-- The base; the offset is added to it after the access. -/
  | postIndex
  /-- The base and a register. -/
  | register
  /-- The base and a scaled register. -/
  | scaled
  deriving DecidableEq, Repr

namespace MemoryMode

/-- The modes in the order of their codes. -/
def all : List MemoryMode := [offset, preIndex, postIndex, register, scaled]

/-- The mode of an address for which none is given. -/
def standard : MemoryMode := offset

/-- The three-bit code. -/
def bits : MemoryMode → UInt8
  | offset => 0
  | preIndex => 1
  | postIndex => 2
  | register => 3
  | scaled => 4

/-- The mode with the code `bits`; the codes from 5 on have none. -/
def ofBits? (bits : UInt8) : Option MemoryMode :=
  match bits.toNat with
  | 0 => some offset
  | 1 => some preIndex
  | 2 => some postIndex
  | 3 => some register
  | 4 => some scaled
  | _ => none

/-- The mode with the code `bits`, or the error that there is none. -/
def ofBits (bits : UInt8) : Except CodecError MemoryMode :=
  match ofBits? bits with
  | some mode => .ok mode
  | none => .error (.invalidMemoryMode bits)

/-- Whether the mode writes the address back to the base register. -/
def writesBack : MemoryMode → Bool
  | preIndex | postIndex => true
  | _ => false

/-- The lower-case name. -/
def name : MemoryMode → String
  | offset => "offset"
  | preIndex => "pre-index"
  | postIndex => "post-index"
  | register => "register"
  | scaled => "scaled"

/-- The name used in JSON. -/
def label : MemoryMode → String
  | offset => "Offset"
  | preIndex => "PreIndex"
  | postIndex => "PostIndex"
  | register => "Register"
  | scaled => "Scaled"

end MemoryMode

end WordCodec
