/-!
# Bit fields of 64-bit words

The arithmetic every layout is built from: masks, truncation, moving a value into and out of a
bit range, and the two directions of two's complement.

* `lowMask` and `truncate` — the low bits of a word; truncation is the only way a value is ever
  narrowed.
* `place` and `extract` — a value moved to a bit range, and read back from one.
* `signExtend`, `toTwosComplement` — between a field's bit pattern and the signed number it stands
  for; `fitsSigned` says when nothing is lost.

**Widths and positions** are natural numbers.  A width of 64 or more is the whole word, so no
function here ever shifts by 64.
-/

namespace WordCodec

/-- The number of bits in a word. -/
def wordBits : Nat := 64

/-- **The low mask.**  The word whose low `width` bits are set; all of them from width 64 on. -/
def lowMask (width : Nat) : UInt64 :=
  if width < wordBits then (1 <<< UInt64.ofNat width) - 1 else -1

/-- The low `width` bits of `value`: the value modulo `2 ^ width`. -/
def truncate (value : UInt64) (width : Nat) : UInt64 :=
  value &&& lowMask width

/-- Whether `value` is below `2 ^ width`, so that truncation keeps it. -/
def fits (value : UInt64) (width : Nat) : Bool :=
  value &&& ~~~(lowMask width) == 0

/-- The `width` bits of `word` that start at bit `shift`, for a `shift` below 64. -/
def extract (word : UInt64) (shift width : Nat) : UInt64 :=
  (word >>> UInt64.ofNat shift) &&& lowMask width

/-- The low `width` bits of `value`, moved up to bit `shift`, for a `shift` below 64. -/
def place (value : UInt64) (shift width : Nat) : UInt64 :=
  truncate value width <<< UInt64.ofNat shift

/-- How far a field of `width` bits moves to bring its sign bit to the top of the word. -/
def signShift (width : Nat) : Nat := wordBits - width

/-- **Sign extension.**  The signed number whose two's complement pattern is the low `width` bits
of `value`: moved up until the sign bit leads, then back down arithmetically.  No bits stand for
zero, and from width 64 on the word is its own pattern. -/
def signExtend (value : UInt64) (width : Nat) : Int64 :=
  if width = 0 then 0
  else if wordBits ≤ width then value.toInt64
  else (value <<< UInt64.ofNat (signShift width)).toInt64 >>> Int64.ofNat (signShift width)

/-- The two's complement pattern of `value` in `width` bits. -/
def toTwosComplement (value : Int64) (width : Nat) : UInt64 :=
  truncate value.toUInt64 width

/-- Whether the pattern of `value` in `width` bits stands for `value` again. -/
def fitsSigned (value : Int64) (width : Nat) : Bool :=
  signExtend (toTwosComplement value width) width == value

end WordCodec
