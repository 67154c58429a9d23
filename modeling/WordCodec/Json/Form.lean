import WordCodec.Json.Scalar

/-!
# Forms

A **form** is how the values of a type are written in JSON: a reader and a printer that belong
together.  The printer is compact; the reader takes anything that means the same.

* `Form.parse`, `Form.print` — whole texts.
* `Form.unsigned`, `Form.boolean`, `Form.unit` — numbers, truth values and `null`.
* `Form.via` — a type written in the form of another.
-/

namespace WordCodec.Json

/-- How the values of a type are written in JSON. -/
structure Form (α : Type) where
  /-- Reads a value from the front of a text. -/
  read : Reader α
  /-- Prints a value. -/
  write : α → List Char

namespace Form

/-- Reads a whole text, which may hold nothing but blanks behind the value. -/
def parse {α : Type} (form : Form α) (text : String) : Except Error α := do
  let (value, rest) ← form.read text.toList
  match skipBlanks rest with
  | [] => .ok value
  | _ => .error .trailingCharacters

/-- Prints a value as a text of its own. -/
def print {α : Type} (form : Form α) (value : α) : String :=
  String.ofList (form.write value)

/-- A type whose values are written as those of another type. -/
def via {α β : Type} (form : Form α) (toValue : α → β) (ofValue : β → α) : Form β where
  read cs := do
    let (value, rest) ← form.read cs
    .ok (toValue value, rest)
  write value := form.write (ofValue value)

/-- The value at the front of a text, if `accept?` takes it; otherwise what `refuse` says of it. -/
def readAs {α : Type} (accept? : Found → Option α) (refuse : Found → Error) (cs : List Char) :
    Except Error (α × List Char) := do
  let (found, rest) ← readFound cs
  match accept? found with
  | some value => .ok (value, rest)
  | none => .error (refuse found)

/-- The whole number a value is, if it is one below `limit`. -/
def unsigned? (limit : Nat) : Found → Option Nat
  | .number (.integer (.ofNat n)) => if n < limit then some n else none
  | _ => none

/-- What is wrong with a value that should be a whole number of the type `title`.  Another whole
number has the right type and the wrong value. -/
def notUnsigned (title : String) : Found → Error
  | .number (.integer i) => .wrongValue i title
  | found => .wrongType found title

/-- Whole numbers below `limit`, in decimal.  Messages call their type `title`. -/
def unsigned (title : String) (limit : Nat) : Form Nat where
  read := readAs (unsigned? limit) (notUnsigned title)
  write n := Nat.toDigits 10 n

/-- The truth value a value is, if it is one. -/
def boolean? : Found → Option Bool
  | .boolean value => some value
  | _ => none

/-- Truth values. -/
def boolean : Form Bool where
  read := readAs boolean? (.wrongType · "a boolean")
  write
    | true => ['t', 'r', 'u', 'e']
    | false => ['f', 'a', 'l', 's', 'e']

/-- Whether a value is `null`. -/
def null? : Found → Option Unit
  | .null => some ()
  | _ => none

/-- The one value `null`, which says that there is nothing more to say. -/
def unit : Form Unit where
  read := readAs null? (.wrongType · "unit")
  write _ := ['n', 'u', 'l', 'l']

/-- Words of 8 bits. -/
def word8 : Form UInt8 := (unsigned "u8" UInt8.size).via UInt8.ofNat UInt8.toNat

/-- Words of 16 bits. -/
def word16 : Form UInt16 := (unsigned "u16" UInt16.size).via UInt16.ofNat UInt16.toNat

/-- Words of 32 bits. -/
def word32 : Form UInt32 := (unsigned "u32" UInt32.size).via UInt32.ofNat UInt32.toNat

/-- Words of 64 bits. -/
def word64 : Form UInt64 := (unsigned "u64" UInt64.size).via UInt64.ofNat UInt64.toNat

end Form

end WordCodec.Json
