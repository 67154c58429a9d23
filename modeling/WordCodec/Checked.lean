import WordCodec.Error

/-!
# Checked computations

The checked layer can refuse, and it keeps a **log** of what it noticed on the way.  The events
logged before a refusal stay in the log.

* `Event` — what is worth noting, with its level, message and named values.
* `Checked` — a result and the log of the events that led to it.
-/

namespace WordCodec

/-- How much an event matters. -/
inductive Level where
  | trace
  | debug
  | warn
  deriving DecidableEq, Repr

/-- The name of a level. -/
def Level.name : Level → String
  | trace => "TRACE"
  | debug => "DEBUG"
  | warn => "WARN"

/-- Something that the checked layer noticed. -/
inductive Event where
  /-- An operand loses its high bits, and `kept` is left of it. -/
  | truncating (field : Field) (value kept : UInt64) (width : Nat)
  /-- An operand is refused for being too wide. -/
  | rejecting (field : Field) (value : UInt64) (width : Nat)
  /-- A decoded opcode names no operation. -/
  | noOperation (opcode : UInt16)
  deriving DecidableEq, Repr

namespace Event

/-- How much the event matters. -/
def level : Event → Level
  | truncating .. => .debug
  | rejecting .. => .warn
  | noOperation _ => .trace

/-- The text of the event. -/
def message : Event → String
  | truncating .. => "truncating operand"
  | rejecting .. => "rejecting operand"
  | noOperation _ => "no operation defined for opcode"

/-- The values that belong to the event, by name; numbers are in decimal. -/
def values : Event → List (String × String)
  | truncating field value kept width =>
    [("field", field.name), ("value", Numeral.decimal value.toNat),
      ("kept", Numeral.decimal kept.toNat), ("width", Numeral.decimal width)]
  | rejecting field value width =>
    [("field", field.name), ("value", Numeral.decimal value.toNat),
      ("width", Numeral.decimal width)]
  | noOperation opcode => [("opcode", Numeral.decimal opcode.toNat)]

end Event

/-- What a checked computation comes to, and the events it logged, the earliest first. -/
structure Checked (α : Type) where
  result : Except CodecError α
  log : List Event

namespace Checked

/-- A value, without events. -/
def succeed {α : Type} (value : α) : Checked α := ⟨.ok value, []⟩

/-- A refusal, without events. -/
def fail {α : Type} (error : CodecError) : Checked α := ⟨.error error, []⟩

/-- Logs one event. -/
def note (event : Event) : Checked Unit := ⟨.ok (), [event]⟩

/-- A result that was reached without events. -/
def ofExcept {α : Type} (result : Except CodecError α) : Checked α := ⟨result, []⟩

/-- Goes on with the value of a computation; a refusal ends it. -/
def andThen {α β : Type} (first : Checked α) (next : α → Checked β) : Checked β :=
  match first.result with
  | .error error => ⟨.error error, first.log⟩
  | .ok value =>
    let second := next value
    ⟨second.result, first.log ++ second.log⟩

instance : Monad Checked where
  pure := succeed
  bind := andThen

end Checked

end WordCodec
