import WordCodec.Layout.Bits
import WordCodec.Json.Form

/-!
# Status flags

The state that conditions look at, packed into 32 bits: seven flags in the lowest bits, a processor
mode of five bits above them, and reserved bits above that.

| bits  | content               |
|-------|-----------------------|
| 0     | negative              |
| 1     | zero                  |
| 2     | carry                 |
| 3     | overflow              |
| 4     | interrupts disabled   |
| 5     | fast ones disabled    |
| 6     | thumb state           |
| 7–11  | processor mode        |
| 12–31 | reserved              |

* `StatusFlags.ofBits` clears the reserved bits; `StatusFlags.form` reads all 32 bits as they are.
* `contains`, `assign`, `union` — flags by flags; `mode`, `withMode` — the mode.
* `StatusFlags.Update`, `StatusFlags.apply` — the ways to get from one state to the next.
-/

namespace WordCodec

/-- Status flags and processor mode. -/
structure StatusFlags where
  /-- All 32 bits, the lowest flag first. -/
  bits : UInt32
  deriving DecidableEq, Repr

namespace StatusFlags

/-- Every bit that is not reserved. -/
def definedMask : UInt32 := 0xFFF

/-- The position of the processor mode. -/
def modeShift : Nat := 7

/-- The width of the processor mode. -/
def modeWidth : Nat := 5

/-- The bits of the processor mode, in their place. -/
def modeMask : UInt32 := 0x1F <<< UInt32.ofNat modeShift

/-- The flags in `bits`, whose reserved bits are dropped. -/
def ofBits (bits : UInt32) : StatusFlags := ⟨bits &&& definedMask⟩

/-- No flag, and mode zero. -/
def none : StatusFlags := ⟨0⟩

/-- The negative flag. -/
def negative : StatusFlags := ⟨0x01⟩

/-- The zero flag. -/
def zero : StatusFlags := ⟨0x02⟩

/-- The carry flag. -/
def carry : StatusFlags := ⟨0x04⟩

/-- The overflow flag. -/
def overflow : StatusFlags := ⟨0x08⟩

/-- The flag that disables interrupts. -/
def irqDisable : StatusFlags := ⟨0x10⟩

/-- The flag that disables fast interrupts. -/
def fiqDisable : StatusFlags := ⟨0x20⟩

/-- The flag of the thumb state. -/
def thumb : StatusFlags := ⟨0x40⟩

/-- The flags one by one, from the lowest bit up. -/
def each : List StatusFlags := [negative, zero, carry, overflow, irqDisable, fiqDisable, thumb]

/-- Whether every bit of `other` is set. -/
def contains (flags other : StatusFlags) : Bool := flags.bits &&& other.bits == other.bits

/-- The flags with every bit of `other` set or cleared. -/
def assign (flags other : StatusFlags) (on : Bool) : StatusFlags :=
  if on then ⟨flags.bits ||| other.bits⟩ else ⟨flags.bits &&& ~~~other.bits⟩

/-- The bits that are set in either. -/
def union (flags other : StatusFlags) : StatusFlags := ⟨flags.bits ||| other.bits⟩

/-- The processor mode. -/
def mode (flags : StatusFlags) : UInt8 :=
  (extract flags.bits.toUInt64 modeShift modeWidth).toUInt8

/-- The mode `mode` in its place; the low five bits count. -/
def modeBits (mode : UInt8) : UInt32 := (place mode.toUInt64 modeShift modeWidth).toUInt32

/-- The flags with another processor mode. -/
def withMode (flags : StatusFlags) (mode : UInt8) : StatusFlags :=
  ⟨(flags.bits &&& ~~~modeMask) ||| modeBits mode⟩

/-- Which of the seven flags are set, from the lowest bit up. -/
def isSet (flags : StatusFlags) : List Bool := each.map flags.contains

/-- A letter, in lower case if its flag is clear. -/
def letter (flags flag : StatusFlags) (c : Char) : Char :=
  if flags.contains flag then c else c.toLower

/-- The four condition flags as letters. -/
def text (flags : StatusFlags) : String :=
  String.ofList [flags.letter negative 'N', flags.letter zero 'Z', flags.letter carry 'C',
    flags.letter overflow 'V']

/-- The form in JSON: the number of all 32 bits. -/
def form : Json.Form StatusFlags := Json.Form.word32.via StatusFlags.mk StatusFlags.bits

/-- A way to get from one state to the next. -/
inductive Update where
  /-- Other flags take the place of all. -/
  | replace (bits : UInt32)
  /-- Some bits are set or cleared. -/
  | assign (bits : UInt32) (on : Bool)
  /-- The mode changes. -/
  | withMode (mode : UInt8)
  /-- Some bits are set. -/
  | union (bits : UInt32)
  /-- A state is read from a JSON text. -/
  | load (text : String)
  deriving DecidableEq, Repr

/-- The state after an update.  Bits given as a number go through `ofBits`. -/
def apply (flags : StatusFlags) : Update → Except Json.Error StatusFlags
  | .replace bits => .ok (ofBits bits)
  | .assign bits on => .ok (flags.assign (ofBits bits) on)
  | .withMode mode => .ok (flags.withMode mode)
  | .union bits => .ok (flags.union (ofBits bits))
  | .load text => form.parse text

end StatusFlags

end WordCodec
