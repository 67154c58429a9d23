import WordCodec.Layout.Field
import WordCodec.Numeral
import WordCodec.Json.Error

/-!
# What the codec can refuse

Decoding and packing are total.  The errors here belong to the checked layer above them: opcodes
and mnemonics without an operation, operands wider than their field, opcodes paired with the
operands of another format, undefined addressing modes, and malformed configurations.
-/

namespace WordCodec

/-- Why the checked layer refuses. -/
inductive CodecError where
  /-- No operation has this opcode. -/
  | unknownOpcode (opcode : UInt16)
  /-- No operation has this mnemonic. -/
  | unknownMnemonic (text : String)
  /-- The operand does not fit the `width` bits of its field. -/
  | operandOutOfRange (field : Field) (value : UInt64) (width : Nat)
  /-- The opcode's tag selects `actual`, but operands of the format `expected` come with it. -/
  | formatMismatch (opcode : UInt16) (expected actual : Format)
  /-- No addressing mode has this code. -/
  | invalidMemoryMode (bits : UInt8)
  /-- The configuration could not be read. -/
  | invalidConfig (cause : Json.Error)
  deriving DecidableEq, Repr

/-- An opcode in messages: at least three hexadecimal digits. -/
def opcodeText (opcode : UInt16) : String :=
  Numeral.paddedHex 3 opcode.toNat

/-- The text of an error.  Of a configuration it says why it could not be read, and leaves out where
in the text the reader stopped. -/
def CodecError.message : CodecError → String
  | unknownOpcode opcode => "unknown opcode " ++ opcodeText opcode
  | unknownMnemonic text => "unknown mnemonic `" ++ text ++ "`"
  | operandOutOfRange field value width =>
    field.name ++ " operand " ++ Numeral.hex value.toNat ++ " does not fit in " ++
      Numeral.decimal width ++ " bits"
  | formatMismatch opcode expected actual =>
    "opcode " ++ opcodeText opcode ++ " is " ++ actual.name ++ ", but " ++ expected.name ++
      " operands were supplied"
  | invalidMemoryMode bits => "invalid memory addressing mode " ++ Numeral.decimal bits.toNat
  | invalidConfig cause => "invalid codec configuration: " ++ cause.message

end WordCodec
