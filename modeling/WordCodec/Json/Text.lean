import WordCodec.Json.Reader

/-!
# Texts in JSON

A text stands between quotes.  A backslash starts an escape; control characters may only occur
escaped.  Code points above `0xFFFF` are escaped as a surrogate pair.

* `readText` — the text whose opening quote has just been read.
* `skipText` — the same for a text nobody asks for, of which only the form is checked: an escaped
  surrogate may stand alone there.
* `quote` — a text that needs no escapes, between quotes.
-/

namespace WordCodec.Json

/-- The value of a hexadecimal digit of either case. -/
def hexDigit? (c : Char) : Option Nat :=
  if '0' ≤ c ∧ c ≤ '9' then some (c.toNat - '0'.toNat)
  else if 'a' ≤ c ∧ c ≤ 'f' then some (c.toNat - 'a'.toNat + 10)
  else if 'A' ≤ c ∧ c ≤ 'F' then some (c.toNat - 'A'.toNat + 10)
  else none

/-- The number of bytes a text takes in UTF-8. -/
def utf8Size : List Char → Nat
  | [] => 0
  | c :: cs => c.utf8Size + utf8Size cs

/-- The number that the four digits at the front stand for.  The text ends too early if less than
four bytes are left of it. -/
def hexUnit : Reader Nat
  | a :: b :: c :: d :: rest =>
    match hexDigit? a, hexDigit? b, hexDigit? c, hexDigit? d with
    | some a, some b, some c, some d => .ok (((a * 16 + b) * 16 + c) * 16 + d, rest)
    | _, _, _, _ => .error .invalidEscape
  | cs => .error (if utf8Size cs < 4 then .endInText else .invalidEscape)

/-- Whether a code unit is the first half of a surrogate pair. -/
def isHighSurrogate (unit : Nat) : Bool := 0xD800 ≤ unit && unit ≤ 0xDBFF

/-- Whether a code unit is the second half of a surrogate pair. -/
def isLowSurrogate (unit : Nat) : Bool := 0xDC00 ≤ unit && unit ≤ 0xDFFF

/-- The code point of a surrogate pair. -/
def pairedSurrogates (high low : Nat) : Nat :=
  0x10000 + (high - 0xD800) * 0x400 + (low - 0xDC00)

/-- The character whose pair starts with `high`, from the escape that has to follow. -/
def finishPair (high : Nat) : Reader Char
  | [] | ['\\'] => .error .endInText
  | '\\' :: 'u' :: cs => do
    let (low, rest) ← hexUnit cs
    if isLowSurrogate low then .ok (Char.ofNat (pairedSurrogates high low), rest)
    else .error .loneSurrogate
  | _ => .error .brokenSurrogatePair

/-- The character escaped by its code, after the `u`. -/
def codeEscape (cs : List Char) : Except Error (Char × List Char) := do
  let (unit, rest) ← hexUnit cs
  if isLowSurrogate unit then .error .loneSurrogate
  else if isHighSurrogate unit then finishPair unit rest
  else .ok (Char.ofNat unit, rest)

/-- The characters with an escape of one letter. -/
def letterEscape? : Char → Option Char
  | '"' => some '"'
  | '\\' => some '\\'
  | '/' => some '/'
  | 'b' => some '\x08'
  | 'f' => some '\x0c'
  | 'n' => some '\n'
  | 'r' => some '\r'
  | 't' => some '\t'
  | _ => none

/-- The escaped character, after the backslash. -/
def escape : Reader Char
  | [] => .error .endInText
  | 'u' :: cs => codeEscape cs
  | c :: cs =>
    match letterEscape? c with
    | some escaped => .ok (escaped, cs)
    | none => .error .invalidEscape

/-- The text after an escape, whatever it stands for. -/
def skipEscape : List Char → Except Error (List Char)
  | [] => .error .endInText
  | 'u' :: cs => do
    let (_, rest) ← hexUnit cs
    .ok rest
  | c :: cs => if (letterEscape? c).isSome then .ok cs else .error .invalidEscape

/-! ## Every escape takes up text

This is what ends the loops below. -/

theorem length_of_hexUnit {cs rest : List Char} {unit : Nat} (h : hexUnit cs = .ok (unit, rest)) :
    cs.length = rest.length + 4 := by
  match cs with
  | [] | [_] | [_, _] | [_, _, _] => simp [hexUnit] at h
  | a :: b :: c :: d :: tail =>
    simp only [hexUnit] at h
    split at h
    · simp only [Except.ok.injEq, Prod.mk.injEq] at h
      simp [h.2]
    · simp at h

theorem length_of_finishPair {high : Nat} {cs rest : List Char} {c : Char}
    (h : finishPair high cs = .ok (c, rest)) : rest.length < cs.length := by
  unfold finishPair at h
  split at h <;> try contradiction
  rename_i tail
  cases hunit : hexUnit tail with
  | error e => rw [hunit] at h; contradiction
  | ok pair =>
    obtain ⟨low, after⟩ := pair
    have hlength := length_of_hexUnit hunit
    simp only [hunit, bind, Except.bind] at h
    split at h
    · simp only [Except.ok.injEq, Prod.mk.injEq] at h
      simp only [List.length_cons, ← h.2]
      omega
    · contradiction

theorem length_of_escape {cs rest : List Char} {c : Char} (h : escape cs = .ok (c, rest)) :
    rest.length < cs.length := by
  unfold escape at h
  split at h
  · contradiction
  · rename_i tail
    simp only [codeEscape, bind, Except.bind] at h
    cases hunit : hexUnit tail with
    | error e => rw [hunit] at h; contradiction
    | ok pair =>
      obtain ⟨unit, after⟩ := pair
      have hlength := length_of_hexUnit hunit
      simp only [hunit] at h
      split at h
      · contradiction
      · split at h
        · have := length_of_finishPair h
          simp only [List.length_cons]
          omega
        · simp only [Except.ok.injEq, Prod.mk.injEq] at h
          simp only [List.length_cons, ← h.2]
          omega
  · split at h
    · simp only [Except.ok.injEq, Prod.mk.injEq] at h
      simp [h.2]
    · contradiction

theorem length_of_skipEscape {cs rest : List Char} (h : skipEscape cs = .ok rest) :
    rest.length < cs.length := by
  unfold skipEscape at h
  split at h
  · contradiction
  · rename_i tail
    simp only [bind, Except.bind] at h
    cases hunit : hexUnit tail with
    | error e => rw [hunit] at h; contradiction
    | ok pair =>
      have hlength := length_of_hexUnit hunit
      simp only [hunit, Except.ok.injEq] at h
      simp only [List.length_cons, ← h]
      omega
  · split at h
    · simp only [Except.ok.injEq] at h
      simp [h]
    · contradiction

/-! ## Whole texts -/

/-- Reads up to the closing quote; `before` holds what has been read, backwards. -/
def readTextAfter (before : List Char) (cs : List Char) : Except Error (List Char × List Char) :=
  match cs with
  | [] => .error .endInText
  | '"' :: rest => .ok (before.reverse, rest)
  | '\\' :: rest =>
    match h : escape rest with
    | .error e => .error e
    | .ok (c, rest') =>
      have : rest'.length < rest.length := length_of_escape h
      readTextAfter (c :: before) rest'
  | c :: rest => if c < ' ' then .error .controlCharacter else readTextAfter (c :: before) rest
termination_by cs.length

/-- The text up to its closing quote. -/
def readText (cs : List Char) : Except Error (String × List Char) := do
  let (chars, rest) ← readTextAfter [] cs
  .ok (String.ofList chars, rest)

/-- What follows the closing quote of a text that nobody asks for. -/
def skipText (cs : List Char) : Except Error (List Char) :=
  match cs with
  | [] => .error .endInText
  | '"' :: rest => .ok rest
  | '\\' :: rest =>
    match h : skipEscape rest with
    | .error e => .error e
    | .ok rest' =>
      have : rest'.length < rest.length := length_of_skipEscape h
      skipText rest'
  | c :: rest => if c < ' ' then .error .controlCharacter else skipText rest
termination_by cs.length

/-- A text between quotes, for one that needs no escapes. -/
def quote (text : String) : List Char :=
  '"' :: text.toList ++ ['"']

end WordCodec.Json
