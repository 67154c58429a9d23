import Mathlib.Tactic
import WordCodec.Json.Literal

/-!
# What JSON texts look like

The grammar of JSON on lists of characters, without a reader.  A value is **written as** many texts:
blanks may stand between tokens, and a character may be escaped in several ways.  Each relation
here pairs a value with all texts it may be written as.

* `TextWritten` — a text between quotes, one character after the other (`CharWritten`).
* `LiteralWritten` — the parts of a number.
* `ListWritten`, `ObjectWritten` — a list by the texts of its items, an object by its keys and the
  texts of their values, in the order in which they stand.
* `IsValue` — any value at all.
* `Scalar` — the values that single members of records have: a number, a truth value or a name.

**A whole text** is a value with blanks around it (`Padded`).
-/

namespace WordCodec.Json

/-- Nothing but spaces, tabs, line feeds and carriage returns. -/
def Blank (cs : List Char) : Prop := ∀ c ∈ cs, c ∈ [' ', '\t', '\n', '\r']

/-! ## Texts -/

/-- A hexadecimal digit, in either case. -/
def HexDigit (d : ℕ) (c : Char) : Prop :=
  d < 16 ∧ (c = Nat.digitChar d ∨ c = (Nat.digitChar d).toUpper)

/-- A code unit by four hexadecimal digits. -/
inductive HexUnit : ℕ → List Char → Prop
  | digits {a b c d : ℕ} {w x y z : Char} :
      HexDigit a w → HexDigit b x → HexDigit c y → HexDigit d z →
      HexUnit (((a * 16 + b) * 16 + c) * 16 + d) [w, x, y, z]

/-- The code units of a character: one, or a surrogate pair from `0x10000` on. -/
def codeUnits (c : Char) : List ℕ :=
  if c.toNat < 0x10000 then [c.toNat]
  else [0xD800 + (c.toNat - 0x10000) / 0x400, 0xDC00 + (c.toNat - 0x10000) % 0x400]

/-- The letters of the short escapes, each with the character it stands for. -/
def shortEscapes : List (Char × Char) :=
  [('"', '"'), ('\\', '\\'), ('/', '/'), ('b', '\x08'), ('f', '\x0c'), ('n', '\n'), ('r', '\r'),
    ('t', '\t')]

/-- The ways to write a character between quotes. -/
inductive CharWritten : Char → List Char → Prop
  | plain {c : Char} : ' ' ≤ c → c ≠ '"' → c ≠ '\\' → CharWritten c [c]
  | short {letter c : Char} : (letter, c) ∈ shortEscapes → CharWritten c ['\\', letter]
  | coded {c : Char} {units : List (List Char)} : List.Forall₂ HexUnit (codeUnits c) units →
      CharWritten c (units.flatMap fun unit => '\\' :: 'u' :: unit)

/-- What may stand between quotes for a text. -/
inductive TextWritten : List Char → List Char → Prop
  | nil : TextWritten [] []
  | cons {c : Char} {cs s t : List Char} :
      CharWritten c s → TextWritten cs t → TextWritten (c :: cs) (s ++ t)

/-- What may stand between quotes at all; a surrogate need not be paired. -/
inductive IsText : List Char → Prop
  | nil : IsText []
  | plain {c : Char} {s : List Char} : ' ' ≤ c → c ≠ '"' → c ≠ '\\' → IsText s → IsText (c :: s)
  | short {letter c : Char} {s : List Char} :
      (letter, c) ∈ shortEscapes → IsText s → IsText ('\\' :: letter :: s)
  | coded {unit : ℕ} {digits s : List Char} :
      HexUnit unit digits → IsText s → IsText ('\\' :: 'u' :: (digits ++ s))

/-! ## Numbers -/

/-- One digit or more. -/
def Digits (cs : List Char) : Prop := cs ≠ [] ∧ ∀ c ∈ cs, c.isDigit = true

/-- An exponent, behind its letter. -/
inductive ExponentWritten : ℤ → List Char → Prop
  | bare {ds : List Char} : Digits ds → ExponentWritten (digitsValue ds) ds
  | plus {ds : List Char} : Digits ds → ExponentWritten (digitsValue ds) ('+' :: ds)
  | minus {ds : List Char} : Digits ds → ExponentWritten (-digitsValue ds) ('-' :: ds)

/-- A sign, digits without leading zeros, and perhaps a point with digits and an exponent. -/
inductive LiteralWritten : Literal → List Char → Prop
  | parts {literal : Literal} {sign fraction exponent : List Char} :
      (sign = if literal.negative then ['-'] else []) →
      Digits literal.whole → (literal.whole.head? = some '0' → literal.whole = ['0']) →
      (literal.fraction = [] ∧ fraction = []
        ∨ Digits literal.fraction ∧ fraction = '.' :: literal.fraction) →
      (literal.exponent = none ∧ exponent = []
        ∨ ∃ value letter s, literal.exponent = some value ∧ letter ∈ ['e', 'E']
          ∧ ExponentWritten value s ∧ exponent = letter :: s) →
      LiteralWritten literal (sign ++ (literal.whole ++ (fraction ++ exponent)))

/-! ## Lists and objects -/

/-- A text with blanks around it. -/
inductive Padded (s : List Char) : List Char → Prop
  | blanks {w w' : List Char} : Blank w → Blank w' → Padded s (w ++ (s ++ w'))

/-- A key, given as `Key` says, with the text of its value. -/
inductive EntryWritten {κ : Type} (Key : κ → List Char → Prop) : κ × List Char → List Char → Prop
  | entry {key : κ} {body value w w' padded : List Char} :
      Blank w → Key key body → Blank w' → Padded value padded →
      EntryWritten Key (key, value) (w ++ '"' :: (body ++ '"' :: (w' ++ ':' :: padded)))

/-- One part or more, with commas between them. -/
inductive Joined {β : Type} (Part : β → List Char → Prop) : List β → List Char → Prop
  | one {x : β} {s : List Char} : Part x s → Joined Part [x] s
  | more {x : β} {xs : List β} {s t : List Char} :
      Part x s → Joined Part xs t → Joined Part (x :: xs) (s ++ ',' :: t)

/-- Parts with commas between them, or none, within brackets. -/
inductive Enclosed {β : Type} (opening closing : Char) (Part : β → List Char → Prop) :
    List β → List Char → Prop
  | empty {w : List Char} : Blank w → Enclosed opening closing Part [] (opening :: (w ++ [closing]))
  | filled {xs : List β} {s : List Char} :
      Joined Part xs s → Enclosed opening closing Part xs (opening :: (s ++ [closing]))

/-- A list, by the texts of its items. -/
def ListWritten : List (List Char) → List Char → Prop := Enclosed '[' ']' Padded

/-- An object, by its keys and the texts of their values. -/
def ObjectWritten {κ : Type} (Key : κ → List Char → Prop) :
    List (κ × List Char) → List Char → Prop :=
  Enclosed '{' '}' (EntryWritten Key)

/-- A key that is a text. -/
def TextKey (key : String) (body : List Char) : Prop := TextWritten key.toList body

/-- A key of which only the form counts. -/
def AnyKey (key body : List Char) : Prop := key = body ∧ IsText body

/-- **The values of JSON.**  Lists and objects may be nested to any depth. -/
inductive IsValue : List Char → Prop
  | null : IsValue ['n', 'u', 'l', 'l']
  | true : IsValue ['t', 'r', 'u', 'e']
  | false : IsValue ['f', 'a', 'l', 's', 'e']
  | number {literal : Literal} {s : List Char} : LiteralWritten literal s → IsValue s
  | text {body : List Char} : IsText body → IsValue ('"' :: (body ++ ['"']))
  | list {values : List (List Char)} {s : List Char} :
      ListWritten values s → (∀ value ∈ values, IsValue value) → IsValue s
  | object {entries : List (List Char × List Char)} {s : List Char} :
      ObjectWritten AnyKey entries s → (∀ entry ∈ entries, IsValue entry.2) → IsValue s

/-! ## Scalars -/

/-- The value of a single member of a record. -/
inductive Scalar where
  | number (n : ℕ)
  | boolean (value : Bool)
  | name (text : String)
  deriving DecidableEq, Repr

/-- A number is written in decimal, and a name as a text or as the key of `null`. -/
inductive Scalar.Written : Scalar → List Char → Prop
  | number (n : ℕ) : Written (.number n) (Nat.toDigits 10 n)
  | true : Written (.boolean Bool.true) ['t', 'r', 'u', 'e']
  | false : Written (.boolean Bool.false) ['f', 'a', 'l', 's', 'e']
  | bare {text : String} {body : List Char} :
      TextKey text body → Written (.name text) ('"' :: (body ++ ['"']))
  | keyed {text : String} {s : List Char} :
      ObjectWritten TextKey [(text, ['n', 'u', 'l', 'l'])] s → Written (.name text) s

end WordCodec.Json
