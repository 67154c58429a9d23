import WordCodec.Json.Form
import WordCodec.Json.Skip

/-!
# Records

A record is a fixed sequence of named members.  It is printed as an object with the members in
that order; it is read from an object with the members **in any order**, or from a list of their
values in the given one.

* `Member`, `Members` — the description of a record.
* `Slot` — what a key means when part of an object has been read.  It fills its slot only once.
* `Record.read` — both ways to write a record.

**What is missing** is replaced by the default of its member, or is an error if it has none; an
object lacks the key then, and a list is too short.
**What is unknown** is skipped, or is an error if the record is closed.
-/

namespace WordCodec.Json

/-- One member of a record. -/
structure Member (α : Type) where
  key : String
  form : Form α
  /-- The value that stands for a member left out, if it may be left out. -/
  default? : Option α

/-- The members of a record in their order.  Its values are the nested pairs of `τ`; what has been
read of them so far are the nested pairs of `σ`, with an option in every place. -/
inductive Members : (τ σ : Type) → Type 1 where
  | nil : Members Unit Unit
  | cons {α τ σ : Type} (member : Member α) (others : Members τ σ) : Members (α × τ) (Option α × σ)

/-- What a key means to a record of which some members have been read. -/
inductive Slot (σ : Type) where
  /-- No member has the key. -/
  | unknown
  /-- The member has been read before. -/
  | taken
  /-- The member is due, and its value is read in this way. -/
  | vacant (fill : Reader σ)

namespace Members

/-- The keys in the order of the members. -/
def keys {τ σ : Type} : Members τ σ → List String
  | nil => []
  | cons member others => member.key :: others.keys

/-- No member has been read. -/
def blank {τ σ : Type} : Members τ σ → σ
  | nil => ()
  | cons _ others => (none, others.blank)

/-- What `key` means when `slots` have been read. -/
def slot {τ σ : Type} : Members τ σ → σ → String → Slot σ
  | nil, _, _ => .unknown
  | cons member others, (value, values), key =>
    if key = member.key then
      match value with
      | some _ => .taken
      | none => .vacant fun cs => do
        let (value, rest) ← member.form.read cs
        .ok ((some value, values), rest)
    else
      match others.slot values key with
      | .unknown => .unknown
      | .taken => .taken
      | .vacant fill => .vacant fun cs => do
        let (values, rest) ← fill cs
        .ok ((value, values), rest)

/-- The values of all members; a default stands for what has not been read.  What is missing is the
error that `missing` makes of its key. -/
def collect {τ σ : Type} (missing : String → Error) : Members τ σ → σ → Except Error τ
  | nil, _ => .ok ()
  | cons member others, (value, values) =>
    match value <|> member.default? with
    | none => .error (missing member.key)
    | some value => do
      let values ← others.collect missing values
      .ok (value, values)

/-- The members with their values, as they stand in an object. -/
def entries {τ σ : Type} : Members τ σ → τ → List (List Char)
  | nil, _ => []
  | cons member others, (value, values) =>
    (quote member.key ++ ':' :: member.form.write value) :: others.entries values

end Members

/-! ## Objects and lists -/

/-- Where a list or an object stands after its opening or after a value. -/
inductive Turn where
  /-- It ends, and the text after it is given. -/
  | close (rest : List Char)
  /-- It goes on with another value or key at the front of the text. -/
  | item (rest : List Char)

/-- Goes on in an object.  In front of all keys but the first stands a comma. -/
def nextKey (first : Bool) (cs : List Char) : Except Error Turn :=
  match skipBlanks cs with
  | [] => .error .endInObject
  | '}' :: rest => .ok (.close rest)
  | c :: rest =>
    if first then
      if c = '"' then .ok (.item rest) else .error .keyMustBeText
    else if c = ',' then
      match skipBlanks rest with
      | [] => .error .endInValue
      | '"' :: rest => .ok (.item rest)
      | '}' :: _ => .error .trailingComma
      | _ => .error .keyMustBeText
    else .error .expectedCommaOrBrace

/-- Goes on in a list.  In front of all values but the first stands a comma. -/
def nextItem (first : Bool) (cs : List Char) : Except Error Turn :=
  match skipBlanks cs with
  | [] => .error .endInList
  | ']' :: rest => .ok (.close rest)
  | c :: rest =>
    if first then .ok (.item (c :: rest))
    else if c = ',' then
      match skipBlanks rest with
      | [] => .error .endInValue
      | ']' :: _ => .error .trailingComma
      | c :: rest => .ok (.item (c :: rest))
    else .error .expectedCommaOrBracket

/-- The text after a list that has to end here. -/
def closeList (cs : List Char) : Except Error (List Char) :=
  match skipBlanks cs with
  | [] => .error .endInList
  | ']' :: rest => .ok rest
  | ',' :: rest =>
    match skipBlanks rest with
    | ']' :: _ => .error .trailingComma
    | _ => .error .trailingCharacters
  | _ => .error .trailingCharacters

/-- Reads a record from the values of a list, after its opening bracket or after a value. -/
def Members.readItems {τ σ : Type} (missing : String → Error) : Members τ σ → Bool → Reader τ
  | nil, _, cs => do
    let rest ← closeList cs
    .ok ((), rest)
  | cons member others, first, cs => do
    match ← nextItem first cs with
    | .close rest =>
      let values ← (cons member others).collect missing (cons member others).blank
      .ok (values, rest)
    | .item rest =>
      let (value, rest) ← member.form.read rest
      let (values, rest) ← others.readItems missing false rest
      .ok ((value, values), rest)

/-- A record: its members, the name under which messages expect it, and whether unknown keys are
errors. -/
structure Record (τ σ : Type) where
  title : String
  closed : Bool
  members : Members τ σ

namespace Record

/-- Reads the entries of an object until it ends.  Every entry takes up text, so as many steps as
there are characters are enough. -/
def readEntries {τ σ : Type} (record : Record τ σ) : Nat → Bool → σ → Reader σ
  | 0, _, _, _ => .error .endInObject
  | steps + 1, first, slots, cs => do
    match ← nextKey first cs with
    | .close rest => .ok (slots, rest)
    | .item rest =>
      let (key, rest) ← readText rest
      match record.members.slot slots key with
      | .taken => .error (.duplicateField key)
      | .unknown =>
        if record.closed then .error (.unknownField key record.members.keys)
        else
          let rest ← colon rest
          let rest ← skipValue rest
          record.readEntries steps false slots rest
      | .vacant fill =>
        let rest ← colon rest
        let (slots, rest) ← fill rest
        record.readEntries steps false slots rest

/-- Reads a record from an object, after its opening brace. -/
def readObject {τ σ : Type} (record : Record τ σ) (cs : List Char) :
    Except Error (τ × List Char) := do
  let (slots, rest) ← record.readEntries (cs.length + 1) true record.members.blank cs
  let values ← record.members.collect .missingField slots
  .ok (values, rest)

/-- The error of a list that holds no value for the member with this key, and so at most one for each
of the members in front of it. -/
def tooShort {τ σ : Type} (record : Record τ σ) (key : String) : Error :=
  .wrongLength (record.members.keys.idxOf key) record.title record.members.keys.length

/-- Reads a record from an object or a list. -/
def read {τ σ : Type} (record : Record τ σ) (cs : List Char) : Except Error (τ × List Char) :=
  match skipBlanks cs with
  | '[' :: rest => record.members.readItems record.tooShort true rest
  | '{' :: rest => record.readObject rest
  | cs => do
    let (found, _) ← readFound cs
    .error (.wrongType found record.title)

/-- Prints a record as an object. -/
def write {τ σ : Type} (record : Record τ σ) (values : τ) : List Char :=
  '{' :: [','].intercalate (record.members.entries values) ++ ['}']

/-- The form of a record. -/
def form {τ σ : Type} (record : Record τ σ) : Form τ where
  read := record.read
  write := record.write

end Record

end WordCodec.Json
