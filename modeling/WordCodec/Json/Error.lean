import WordCodec.Json.Number
import WordCodec.Text.Quoted

/-!
# What can be wrong with a JSON text

Errors are causes.  Each has a `category`, which tells a text that ends too early from one that is
no JSON at all and from one that is JSON of the wrong shape, and a `message`.

**A message says what is wrong, not where.**  The line and the column at which a reader stopped, which
usually follow, are no part of an error here.
-/

namespace WordCodec.Json

/-- A value that stands where another was expected.  Of lists and objects only the kind is seen. -/
inductive Found where
  | null
  | boolean (value : Bool)
  | number (value : Number)
  | text (value : String)
  | list
  | object
  deriving DecidableEq, Repr

/-- The value as messages describe it. -/
def Found.describe : Found → String
  | null => "null"
  | boolean value => "boolean `" ++ (if value then "true" else "false") ++ "`"
  | number value => value.describe
  | text value => "string " ++ Text.quoted value
  | list => "sequence"
  | object => "map"

/-- What a variant of a choice carries. -/
inductive Content where
  /-- A value of another type. -/
  | value
  /-- The members of a record. -/
  | record
  deriving DecidableEq, Repr

/-- A variant with such content, as messages call it. -/
def Content.describe : Content → String
  | value => "newtype variant"
  | record => "struct variant"

/-- The three kinds of error. -/
inductive Category where
  /-- The text ends where more is due. -/
  | eof
  /-- The text is no JSON. -/
  | malformed
  /-- The text is JSON, but not of the shape asked for. -/
  | data
  deriving DecidableEq, Repr

/-- Why a text could not be read. -/
inductive Error where
  | endInList
  | endInObject
  | endInText
  | endInValue
  | expectedColon
  | expectedCommaOrBracket
  | expectedCommaOrBrace
  | expectedIdent
  | expectedValue
  | invalidEscape
  | invalidNumber
  | numberOutOfRange
  | controlCharacter
  | keyMustBeText
  | loneSurrogate
  | brokenSurrogatePair
  | trailingComma
  | trailingCharacters
  /-- A value of another type than the one expected. -/
  | wrongType (found : Found) (expected : String)
  /-- A whole number outside the bounds of the type expected. -/
  | wrongValue (value : Int) (expected : String)
  /-- A list that ends after `length` values, before the `size` members of a record have theirs. -/
  | wrongLength (length : Nat) (title : String) (size : Nat)
  /-- A name that is none of the choices. -/
  | unknownVariant (name : String) (expected : List String)
  /-- A bare name of a variant that carries content. -/
  | contentMissing (content : Content)
  /-- A key that a closed record does not have. -/
  | unknownField (key : String) (expected : List String)
  /-- A member without default that the text leaves out. -/
  | missingField (key : String)
  /-- A key that occurs twice. -/
  | duplicateField (key : String)
  deriving DecidableEq, Repr

/-- The choices at a point, as messages list them: two are joined by `or`, more are enumerated.
What the choices are is said only if there are none. -/
def alternatives (kind : String) : List String → String
  | [] => "there are no " ++ kind
  | [a] => "expected `" ++ a ++ "`"
  | [a, b] => "expected `" ++ a ++ "` or `" ++ b ++ "`"
  | names => "expected one of " ++ ", ".intercalate (names.map fun name => "`" ++ name ++ "`")

/-- The size of a record in messages. -/
def elements : Nat → String
  | 1 => "1 element"
  | size => Numeral.decimal size ++ " elements"

namespace Error

/-- The kind of an error. -/
def category : Error → Category
  | endInList | endInObject | endInText | endInValue => .eof
  | wrongType .. | wrongValue .. | wrongLength .. | unknownVariant .. | contentMissing _
  | unknownField .. | missingField _ | duplicateField _ => .data
  | _ => .malformed

/-- The text of an error. -/
def message : Error → String
  | endInList => "EOF while parsing a list"
  | endInObject => "EOF while parsing an object"
  | endInText => "EOF while parsing a string"
  | endInValue => "EOF while parsing a value"
  | expectedColon => "expected `:`"
  | expectedCommaOrBracket => "expected `,` or `]`"
  | expectedCommaOrBrace => "expected `,` or `\x7d`"
  | expectedIdent => "expected ident"
  | expectedValue => "expected value"
  | invalidEscape => "invalid escape"
  | invalidNumber => "invalid number"
  | numberOutOfRange => "number out of range"
  | controlCharacter => "control character (\\u0000-\\u001F) found while parsing a string"
  | keyMustBeText => "key must be a string"
  | loneSurrogate => "lone leading surrogate in hex escape"
  | brokenSurrogatePair => "unexpected end of hex escape"
  | trailingComma => "trailing comma"
  | trailingCharacters => "trailing characters"
  | wrongType found expected => "invalid type: " ++ found.describe ++ ", expected " ++ expected
  | wrongValue value expected =>
    "invalid value: " ++ (Number.integer value).describe ++ ", expected " ++ expected
  | wrongLength length title size =>
    "invalid length " ++ Numeral.decimal length ++ ", expected " ++ title ++ " with " ++
      elements size
  | unknownVariant name expected =>
    "unknown variant `" ++ name ++ "`, " ++ alternatives "variants" expected
  | contentMissing content => "invalid type: unit variant, expected " ++ content.describe
  | unknownField key expected =>
    "unknown field `" ++ key ++ "`, " ++ alternatives "fields" expected
  | missingField key => "missing field `" ++ key ++ "`"
  | duplicateField key => "duplicate field `" ++ key ++ "`"

end Error

end WordCodec.Json
