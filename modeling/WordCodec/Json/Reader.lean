import WordCodec.Json.Error

/-!
# Reading JSON from a list of characters

A reader takes a text and returns what it read and the text that is left, or the first error met
from left to right.

* `Reader` — the type.  Readers of values skip blanks in front of the value and none behind it.
* `skipBlanks` — space, tab, line feed and carriage return, and nothing else.
* `finishWord` — the rest of `null`, `true` or `false`, once its first letter is seen.
* `colon` — the colon between a key and its value.
-/

namespace WordCodec.Json

/-- What reads a value of type `α` from the front of a text. -/
abbrev Reader (α : Type) := List Char → Except Error (α × List Char)

/-- Whether a character may stand between tokens. -/
def isBlank (c : Char) : Bool :=
  c == ' ' || c == '\t' || c == '\n' || c == '\r'

/-- The text from its first character that is no blank. -/
def skipBlanks (cs : List Char) : List Char :=
  cs.dropWhile isBlank

/-- The text after `word`, which has to stand at its front. -/
def finishWord : List Char → List Char → Except Error (List Char)
  | [], rest => .ok rest
  | _ :: _, [] => .error .endInValue
  | w :: word, c :: rest => if c = w then finishWord word rest else .error .expectedIdent

/-- The text after the colon that has to follow a key. -/
def colon (cs : List Char) : Except Error (List Char) :=
  match skipBlanks cs with
  | [] => .error .endInObject
  | ':' :: rest => .ok rest
  | _ => .error .expectedColon

end WordCodec.Json
