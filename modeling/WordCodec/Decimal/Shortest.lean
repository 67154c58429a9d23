import WordCodec.Numeral

/-!
# The shortest decimal of a binary float

A double-precision float is written with the **fewest digits that read back** as the same float,
and of those with the digits nearest to its exact value.

* `Binary.ofBits` — a float as `significand * 2 ^ exponent`.
* `Binary.shortest` — the decimal `digits * 10 ^ exponent`, found in exact arithmetic: the largest
  power of ten with a multiple among the numbers that round to the float, and the multiple next to
  the float's value.
* `write` — the decimal as text, in a given `Style`.
-/

namespace WordCodec.Decimal

/-- A float without its sign: `significand * 2 ^ exponent`. -/
structure Binary where
  significand : Nat
  exponent : Int
  /-- Whether the float below is only half as far away as the one above. -/
  nearBelow : Bool

/-- The magnitude of a finite float. -/
def Binary.ofBits (bits : UInt64) : Binary :=
  let fraction := (bits &&& 0xFFFFFFFFFFFFF).toNat
  let exponent := ((bits >>> 52) &&& 0x7FF).toNat
  if exponent = 0 then ⟨fraction, -1074, false⟩
  else ⟨fraction + 0x10000000000000, exponent - 1075, fraction = 0 && 1 < exponent⟩

/-- A decimal: `digits * 10 ^ exponent`. -/
structure Scientific where
  digits : Nat
  exponent : Int

/-- **The neighbours on one grid.**  Of the multiples of `10 ^ k` that round to the float, the one
nearest to it; of two equally near, the even one.

All numbers are brought to a common denominator, in which the float is `4 * significand` and the
halfway points to its neighbours are two above, and two or one below. -/
def Binary.onGrid? (float : Binary) (k : Int) : Option Nat :=
  let up := Nat.pow 2 (float.exponent - 2).toNat * Nat.pow 10 (-k).toNat
  let unit := Nat.pow 2 (2 - float.exponent).toNat * Nat.pow 10 k.toNat
  let value := 4 * float.significand * up
  let high := (4 * float.significand + 2) * up
  let low := (4 * float.significand - if float.nearBelow then 1 else 2) * up
  let roundsBack (d : Nat) : Bool :=
    if float.significand % 2 = 0 then low ≤ d * unit && d * unit ≤ high
    else low < d * unit && d * unit < high
  let below := value / unit
  let nearest :=
    if 2 * value < (2 * below + 1) * unit then below
    else if (2 * below + 1) * unit < 2 * value then below + 1
    else below + below % 2
  [nearest, below, below + 1].find? roundsBack

/-- The shortest decimal that reads back as the float.  Every float is a multiple of
`10 ^ (-1074)`, so the search always ends with a hit. -/
def Binary.shortest (float : Binary) : Scientific :=
  ((List.range 1400).findSome? fun (i : Nat) =>
    let k : Int := 309 - (i : Int)
    (float.onGrid? k).map fun digits => Scientific.mk digits k).getD ⟨0, 0⟩

/-- How a decimal is written.  Where plain notation ends is given by positions of the point
relative to the first digit. -/
structure Style where
  /-- In plain notation the point stands more to the right than this, -/
  leastPlain : Int
  /-- and at most here. -/
  mostPlain : Int
  /-- Whether an exponent that is not negative has a plus sign. -/
  plusSign : Bool

/-- The exponent of a decimal as text. -/
def Style.exponent (style : Style) (exponent : Int) : String :=
  (if style.plusSign && 0 ≤ exponent then "+" else "") ++ Numeral.signedDecimal exponent

/-- A decimal as text: digits with a point if that lies within the bounds of the style, and one
digit before the point with an exponent otherwise. -/
def Scientific.write (style : Style) (decimal : Scientific) : String :=
  let digits := Nat.toDigits 10 decimal.digits
  let point := digits.length + decimal.exponent
  let zeros (n : Int) := List.replicate n.toNat '0'
  String.ofList <|
    if 0 ≤ decimal.exponent ∧ point ≤ style.mostPlain then
      digits ++ zeros decimal.exponent ++ ['.', '0']
    else if 0 < point ∧ point ≤ style.mostPlain then
      digits.take point.toNat ++ '.' :: digits.drop point.toNat
    else if style.leastPlain < point ∧ point ≤ 0 then
      '0' :: '.' :: zeros (-point) ++ digits
    else
      let fraction := digits.drop 1
      digits.take 1 ++ (if fraction.isEmpty then [] else '.' :: fraction) ++
        'e' :: (style.exponent (point - 1)).toList

/-- A float as text, by its bits. -/
def write (style : Style) (bits : UInt64) : String :=
  let sign := if bits >>> 63 = 0 then "" else "-"
  let binary := Binary.ofBits bits
  sign ++ if binary.significand = 0 then "0.0" else binary.shortest.write style

end WordCodec.Decimal
