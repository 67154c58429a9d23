import WordCodec.Json.Text
import WordCodec.Json.Literal

/-!
# The value at hand

`readFound` reads the value at the front of a text without knowing what is expected: a scalar is
read whole, and of a list or an object only the kind is seen.  So a value of the wrong type is
reported as what it is, and a scalar that is no JSON by its own error.
-/

namespace WordCodec.Json

/-- The value at the front of a text, with the text after it; lists and objects are left unread. -/
def readFound (cs : List Char) : Except Error (Found × List Char) :=
  match skipBlanks cs with
  | [] => .error .endInValue
  | '[' :: rest => .ok (.list, '[' :: rest)
  | '{' :: rest => .ok (.object, '{' :: rest)
  | '"' :: rest => do
    let (text, rest) ← readText rest
    .ok (.text text, rest)
  | 'n' :: rest => do
    let rest ← finishWord ['u', 'l', 'l'] rest
    .ok (.null, rest)
  | 't' :: rest => do
    let rest ← finishWord ['r', 'u', 'e'] rest
    .ok (.boolean true, rest)
  | 'f' :: rest => do
    let rest ← finishWord ['a', 'l', 's', 'e'] rest
    .ok (.boolean false, rest)
  | c :: rest =>
    if startsNumber c then do
      let (number, rest) ← readNumber (c :: rest)
      .ok (.number number, rest)
    else .error .expectedValue

end WordCodec.Json
