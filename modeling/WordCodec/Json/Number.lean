import WordCodec.Numeral
import WordCodec.Decimal.Shortest

/-!
# Numbers found in JSON

A number literal stands for a whole number if it is written as one and fits a 64-bit word,
signed or unsigned; otherwise it stands for a binary float.
-/

namespace WordCodec.Json

/-- What a number literal stands for. -/
inductive Number where
  /-- A whole number between `-2 ^ 63` and `2 ^ 64`. -/
  | integer (value : Int)
  /-- Any other number, by the bits of its double-precision value. -/
  | float (bits : UInt64)
  deriving DecidableEq, Repr

namespace Number

/-- **How messages write a float.**  Plain digits up to sixteen before the point and at most four
zeros after it; beyond that an exponent, which has a sign either way and no padding. -/
def floatStyle : Decimal.Style where
  leastPlain := -5
  mostPlain := 16
  plusSign := true

/-- The number as messages describe it. -/
def describe : Number → String
  | integer value => "integer `" ++ Numeral.signedDecimal value ++ "`"
  | float bits => "floating point `" ++ Decimal.write floatStyle bits ++ "`"

end Number

end WordCodec.Json
