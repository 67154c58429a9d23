import WordCodec.Json.Text
import WordCodec.Json.Literal

/-!
# Values that nobody asks for

A record may hold keys of which it knows nothing; their values are checked for form and dropped.
Lists and objects may be nested to any depth, so the open ones are kept on an explicit stack.

* `Frame` — an open list or object.
* `afterValue` — closes what ends behind a value, until another value is due.
* `skipValue` — what follows a value.
-/

namespace WordCodec.Json

/-- An open list or object. -/
inductive Frame where
  | list
  | object
  deriving DecidableEq, Repr

namespace Frame

/-- The character that closes the frame. -/
def closing : Frame → Char
  | list => ']'
  | object => '}'

/-- The error of a text that ends within the frame. -/
def unclosed : Frame → Error
  | list => .endInList
  | object => .endInObject

/-- The error of a value that is followed by neither a comma nor the end of the frame. -/
def noSeparator : Frame → Error
  | list => .expectedCommaOrBracket
  | object => .expectedCommaOrBrace

end Frame

/-- What is left to do in the midst of a skipped value. -/
inductive Pending where
  /-- Nothing: the value ends before `rest`. -/
  | done (rest : List Char)
  /-- A value is due at the front of `rest`, within the open frames, the innermost first. -/
  | value (frames : List Frame) (rest : List Char)

/-- The text after a key and its colon. -/
def skipKey (cs : List Char) : Except Error (List Char) :=
  match skipBlanks cs with
  | [] => .error .endInObject
  | '"' :: rest => do
    let rest ← skipText rest
    colon rest
  | _ => .error .keyMustBeText

/-- The text where the next value of a frame starts: in an object, behind a key. -/
def Frame.enter (frame : Frame) (cs : List Char) : Except Error (List Char) :=
  match frame with
  | list => .ok cs
  | object => skipKey cs

/-- Goes on after a value that stands in the given frames. -/
def afterValue : List Frame → List Char → Except Error Pending
  | [], cs => .ok (.done cs)
  | frame :: frames, cs =>
    match skipBlanks cs with
    | [] => .error frame.unclosed
    | c :: rest =>
      if c = ',' then do
        let rest ← frame.enter rest
        .ok (.value (frame :: frames) rest)
      else if c = frame.closing then afterValue frames rest
      else .error frame.noSeparator

/-- Goes on after the opening of `frame`, which stands in the given frames. -/
def afterOpening (frame : Frame) (frames : List Frame) (cs : List Char) : Except Error Pending :=
  match skipBlanks cs with
  | [] => .error frame.unclosed
  | c :: rest =>
    if c = frame.closing then afterValue frames rest
    else do
      let rest ← frame.enter (c :: rest)
      .ok (.value (frame :: frames) rest)

/-- What follows a scalar whose first character is `c`. -/
def skipScalar (c : Char) (cs : List Char) : Except Error (List Char) :=
  match c with
  | '"' => skipText cs
  | 'n' => finishWord ['u', 'l', 'l'] cs
  | 't' => finishWord ['r', 'u', 'e'] cs
  | 'f' => finishWord ['a', 'l', 's', 'e'] cs
  | c => if startsNumber c then skipLiteral (c :: cs) else .error .expectedValue

/-- Skips one scalar or opens one frame. -/
def skipStep (frames : List Frame) (cs : List Char) : Except Error Pending :=
  match skipBlanks cs with
  | [] => .error .endInValue
  | '[' :: rest => afterOpening .list frames rest
  | '{' :: rest => afterOpening .object frames rest
  | c :: rest => do
    let rest ← skipScalar c rest
    afterValue frames rest

/-- Skips until no frame is open.  Every step takes up a character, so as many steps as there are
characters are enough. -/
def skipSteps : Nat → List Frame → List Char → Except Error (List Char)
  | 0, _, _ => .error .endInValue
  | steps + 1, frames, cs => do
    match ← skipStep frames cs with
    | .done rest => .ok rest
    | .value frames rest => skipSteps steps frames rest

/-- The text after the value at the front. -/
def skipValue (cs : List Char) : Except Error (List Char) :=
  skipSteps (cs.length + 1) [] cs

end WordCodec.Json
