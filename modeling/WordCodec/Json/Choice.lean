import WordCodec.Json.Form

/-!
# Choices

A choice is written as the **name** of one of its variants, or as an object with that name for its
only key and the variant's content for its value.

* `Variant` — a name with what it means on its own and what may follow it.
* `readChoice` — both ways to write a choice.
* `enumeration` — variants without content: the name alone, or the name with `null`.
* `tagged` — how a variant with content is printed.
-/

namespace WordCodec.Json

/-- One way to write a value of a choice. -/
structure Variant (α : Type) where
  name : String
  /-- The value that the bare name stands for, or the content without which it stands for none. -/
  bare : Except Content α
  /-- Reads what follows the name and the colon. -/
  content : Reader α

/-- The variant with the given name. -/
def findVariant {α : Type} (variants : List (Variant α)) (name : String) :
    Except Error (Variant α) :=
  match variants.find? (·.name == name) with
  | some variant => .ok variant
  | none => .error (.unknownVariant name (variants.map (·.name)))

/-- Reads the bare name of a variant, after its opening quote. -/
def readBare {α : Type} (variants : List (Variant α)) (cs : List Char) :
    Except Error (α × List Char) := do
  let (name, rest) ← readText cs
  let variant ← findVariant variants name
  match variant.bare with
  | .ok value => .ok (value, rest)
  | .error content => .error (.contentMissing content)

/-- The text after the brace that has to end a choice. -/
def closeChoice (cs : List Char) : Except Error (List Char) :=
  match skipBlanks cs with
  | [] => .error .endInObject
  | '}' :: rest => .ok rest
  | _ => .error .expectedValue

/-- Reads the name of a variant and its content, after the opening brace.  A key begins with a quote:
another value in its place is no key at all, and is not looked at for what type it has. -/
def readKeyed {α : Type} (variants : List (Variant α)) (cs : List Char) :
    Except Error (α × List Char) :=
  match skipBlanks cs with
  | [] => .error .endInObject
  | '}' :: _ => .error .expectedValue
  | '"' :: rest => do
    let (name, rest) ← readText rest
    let variant ← findVariant variants name
    let rest ← colon rest
    let (value, rest) ← variant.content rest
    let rest ← closeChoice rest
    .ok (value, rest)
  | _ => .error .keyMustBeText

/-- Reads a choice. -/
def readChoice {α : Type} (variants : List (Variant α)) (cs : List Char) :
    Except Error (α × List Char) :=
  match skipBlanks cs with
  | [] => .error .endInValue
  | '"' :: rest => readBare variants rest
  | '{' :: rest => readKeyed variants rest
  | _ => .error .expectedValue

/-- A variant that is nothing but a name. -/
def Variant.plain {α : Type} (name : String) (value : α) : Variant α where
  name := name
  bare := .ok value
  content cs := do
    let ((), rest) ← Form.unit.read cs
    .ok (value, rest)

/-- A variant that carries what is written in the form of another type. -/
def Variant.carrying {α β : Type} (content : Content) (name : String) (form : Form β)
    (wrap : β → α) : Variant α where
  name := name
  bare := .error content
  content cs := do
    let (value, rest) ← form.read cs
    .ok (wrap value, rest)

/-- The form of a choice between the values of a list, by their names. -/
def enumeration {α : Type} (all : List α) (name : α → String) : Form α where
  read := readChoice (all.map fun value => Variant.plain (name value) value)
  write value := quote (name value)

/-- A variant with its content. -/
def tagged (name : String) (content : List Char) : List Char :=
  '{' :: quote name ++ ':' :: content ++ ['}']

end WordCodec.Json
