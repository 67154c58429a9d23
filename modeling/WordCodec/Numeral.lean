/-!
# Numerals in messages and listings

Words are written in decimal, in hexadecimal, or in hexadecimal with a least number of digits.

* `decimal`, `signedDecimal` — digits without padding, a minus sign in front of a negative number.
* `hex`, `paddedHex` — lower-case digits after `0x`; `paddedHex` fills up with zeros.
-/

namespace WordCodec.Numeral

/-- `n` in decimal. -/
def decimal (n : Nat) : String :=
  String.ofList (Nat.toDigits 10 n)

/-- `i` in decimal, with a minus sign if it is negative. -/
def signedDecimal : Int → String
  | .ofNat n => decimal n
  | .negSucc n => "-" ++ decimal (n + 1)

/-- `n` in lower-case hexadecimal after `0x`. -/
def hex (n : Nat) : String :=
  "0x" ++ String.ofList (Nat.toDigits 16 n)

/-- `n` in lower-case hexadecimal after `0x`, with zeros in front up to `count` digits. -/
def paddedHex (count n : Nat) : String :=
  let digits := Nat.toDigits 16 n
  "0x" ++ String.ofList (List.replicate (count - digits.length) '0' ++ digits)

end WordCodec.Numeral
