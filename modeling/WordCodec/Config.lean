import WordCodec.Error
import WordCodec.Json.Record
import WordCodec.Json.Choice

/-!
# Configuration

Two settings: what the checked encoder does with operands that are too wide, and whether the
disassembler shows immediates as signed numbers.  A configuration is read from JSON; what it leaves
out has a default, and what it does not know is an error.
-/

namespace WordCodec

/-- What the checked encoder does with an operand wider than its field. -/
inductive OperandPolicy where
  /-- It keeps the low bits and logs that it does. -/
  | truncate
  /-- It refuses. -/
  | reject
  deriving DecidableEq, Repr

namespace OperandPolicy

/-- Both policies. -/
def all : List OperandPolicy := [truncate, reject]

/-- The name used in JSON. -/
def label : OperandPolicy → String
  | truncate => "truncate"
  | reject => "reject"

/-- The form in JSON. -/
def form : Json.Form OperandPolicy := Json.enumeration all label

end OperandPolicy

/-- Settings of the checked encoder and the disassembler. -/
structure Config where
  /-- What to do with operands that are too wide. -/
  operandPolicy : OperandPolicy := .truncate
  /-- Whether immediates are shown as signed numbers. -/
  signExtendImmediates : Bool := true
  deriving DecidableEq, Repr

namespace Config

/-- The configuration in which everything has its default. -/
def standard : Config := {}

/-- The members of a configuration.  Each may be left out, and others are errors. -/
def record :=
  Json.Record.mk "struct CodecConfig" true <|
    .cons ⟨"operand_policy", OperandPolicy.form, some standard.operandPolicy⟩ <|
    .cons ⟨"sign_extend_immediates", .boolean, some standard.signExtendImmediates⟩ .nil

/-- The form in JSON. -/
def form : Json.Form Config :=
  record.form.via
    (fun (policy, signed, ()) => ⟨policy, signed⟩)
    (fun config => (config.operandPolicy, config.signExtendImmediates, ()))

/-- Reads a configuration from a JSON text. -/
def ofJson (text : String) : Except CodecError Config :=
  (form.parse text).mapError .invalidConfig

end Config

end WordCodec
