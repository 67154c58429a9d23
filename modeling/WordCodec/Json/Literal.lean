import WordCodec.Json.Reader

/-!
# Number literals

A literal is read in two steps: first its form, then its value.

* `Literal` — the parts of a literal: sign, whole digits, digits after the point, exponent.
* `scanLiteral` — the form.  No leading zeros, and at least one digit wherever digits may stand.
* `Literal.value` — what a literal stands for.

**A whole number that fits 64 bits** is kept exactly.  Anything else becomes a float: as many
digits as fit 64 bits make up the significand, the others only count towards the exponent, and the
significand is then scaled by powers of ten that a double holds.  Minus zero is a float, since no
whole number has its sign.
-/

namespace WordCodec.Json

/-- The parts of a number literal. -/
structure Literal where
  /-- Whether a minus sign stands in front. -/
  negative : Bool
  /-- The digits before the point, at least one. -/
  whole : List Char
  /-- The digits after the point, empty without a point. -/
  fraction : List Char
  /-- The exponent, if one is written. -/
  exponent : Option Int
  deriving DecidableEq, Repr

/-! ## The form -/

/-- The digits at the front, of which there has to be one. -/
def someDigits : Reader (List Char)
  | [] => .error .endInValue
  | c :: rest =>
    if c.isDigit then .ok (c :: rest.takeWhile Char.isDigit, rest.dropWhile Char.isDigit)
    else .error .invalidNumber

/-- The digits before the point: no zero stands in front of other digits. -/
def wholeDigits : Reader (List Char)
  | '0' :: c :: rest => if c.isDigit then .error .invalidNumber else .ok (['0'], c :: rest)
  | cs => someDigits cs

/-- The digits after the point, if there is one. -/
def fractionDigits : Reader (List Char)
  | '.' :: rest => someDigits rest
  | cs => .ok ([], cs)

/-- The number that decimal digits stand for. -/
def digitsValue (digits : List Char) : Nat := Nat.ofDigitChars 10 digits 0

/-- The exponent after its letter, with or without a sign. -/
def signedExponent : Reader Int
  | '-' :: rest => do
    let (digits, rest) ← someDigits rest
    .ok (-digitsValue digits, rest)
  | '+' :: rest => do
    let (digits, rest) ← someDigits rest
    .ok (digitsValue digits, rest)
  | cs => do
    let (digits, rest) ← someDigits cs
    .ok (digitsValue digits, rest)

/-- The exponent, if there is one. -/
def exponentPart : Reader (Option Int)
  | [] => .ok (none, [])
  | c :: rest =>
    if c = 'e' ∨ c = 'E' then do
      let (exponent, rest) ← signedExponent rest
      .ok (some exponent, rest)
    else .ok (none, c :: rest)

/-- Whether a literal starts with this character. -/
def startsNumber (c : Char) : Bool := c == '-' || c.isDigit

/-- A minus sign, if there is one. -/
def minusSign : List Char → Bool × List Char
  | '-' :: rest => (true, rest)
  | cs => (false, cs)

/-- The literal at the front of a text. -/
def scanLiteral (cs : List Char) : Except Error (Literal × List Char) := do
  let (negative, cs) := minusSign cs
  let (whole, cs) ← wholeDigits cs
  let (fraction, cs) ← fractionDigits cs
  let (exponent, cs) ← exponentPart cs
  .ok (⟨negative, whole, fraction, exponent⟩, cs)

/-- What follows a literal that nobody asks for.  One that breaks off is invalid, even where the
text ends. -/
def skipLiteral (cs : List Char) : Except Error (List Char) :=
  match scanLiteral cs with
  | .ok (_, rest) => .ok rest
  | .error _ => .error .invalidNumber

/-! ## The value -/

/-- Takes digits into the significand as long as it fits a word, and returns it with the digits
that are left. -/
def takeDigits (significand : Nat) : List Char → Nat × List Char
  | [] => (significand, [])
  | c :: digits =>
    let next := Nat.ofDigitChars 10 [c] significand
    if next < UInt64.size then takeDigits next digits else (significand, c :: digits)

/-- The significand of a literal and its power of ten. -/
def Literal.scientific (literal : Literal) : Nat × Int :=
  let (leading, dropped) := takeDigits 0 literal.whole
  let (significand, ignored) := takeDigits leading literal.fraction
  let taken := literal.fraction.length - ignored.length
  (significand, dropped.length - taken + literal.exponent.getD 0)

/-- The largest power of ten that a double holds, by its exponent. -/
def maxPower : Nat := 308

/-- A power of ten as a double, for an exponent up to `maxPower`. -/
def powerOfTen (exponent : Nat) : Float := Float.ofScientific 1 false exponent

/-- **Scaling.**  `value * 10 ^ exponent`, in one step if a double holds the power, and otherwise
by the largest such power again and again.  A result beyond all doubles is an error; one that is
too small is zero. -/
def scale (value : Float) (exponent : Int) : Except Error Float :=
  if 0 ≤ exponent then
    if exponent ≤ maxPower then
      let scaled := value * powerOfTen exponent.toNat
      if scaled.isInf then .error .numberOutOfRange else .ok scaled
    else if value == 0 then .ok value
    else .error .numberOutOfRange
  else if -(maxPower : Int) ≤ exponent then .ok (value / powerOfTen (-exponent).toNat)
  else if value == 0 then .ok value
  else scale (value / powerOfTen maxPower) (exponent + maxPower)
termination_by (-exponent).toNat
decreasing_by simp only [maxPower] at *; omega

/-- The whole number a literal stands for, if it is written as one and fits 64 bits. -/
def Literal.integer? (literal : Literal) : Option Int :=
  let value := digitsValue literal.whole
  if literal.fraction ≠ [] ∨ literal.exponent ≠ none then none
  else if literal.negative then
    if 1 ≤ value ∧ 2 * value ≤ UInt64.size then some (-value) else none
  else if value < UInt64.size then some value
  else none

/-- What a literal stands for. -/
def Literal.value (literal : Literal) : Except Error Number :=
  match literal.integer? with
  | some value => .ok (.integer value)
  | none => do
    let (significand, exponent) := literal.scientific
    let magnitude ← scale (UInt64.ofNat significand).toFloat exponent
    .ok (.float (if literal.negative then -magnitude else magnitude).toBits)

/-- The number at the front of a text. -/
def readNumber (cs : List Char) : Except Error (Number × List Char) := do
  let (literal, rest) ← scanLiteral cs
  let value ← literal.value
  .ok (value, rest)

end WordCodec.Json
