import WordCodec.Proofs.BuilderCalls
import WordCodec.Proofs.Disassembly

/-!
# Signed displacements

Three formats have an operand that stands for a signed number: an immediate, or an offset.  The
builders take it as a bit pattern and keep what its field has room for; the readers extend the sign
of what is left.  So a displacement comes back as its balanced remainder for the width of the field,
and **it survives exactly when it fits**.

* `OpenCall` — a call of a builder in which the displacement is still missing.
* `displacement?_decode_word` — what is read back of the displacement that was filled in.
* `result_strict_twosComplement` — a displacement cut down to its pattern beforehand always passes
  the strict encoder, which then makes the word that the unchecked builder makes of it whole.
* `result_strict_eq_ok_iff` — handed over whole, it is taken for an unsigned number.  So a negative
  one is refused, and one that fits the field without its sign is accepted, although it may come
  back negative.
* `line_eq_front_append` — branches and signed immediates are shown as the number that is read back.
-/

namespace WordCodec

/-- The signed number that a payload holds; a register-format payload holds none. -/
def Payload.displacement? : Payload → Option Int64
  | register _ => none
  | immediate fields => some fields.signedImmediate
  | branch fields => some fields.signedOffset
  | memory fields => some fields.signedOffset

/-- The field of the signed number of a format. -/
def Format.displacementField? : Format → Option Field
  | register => none
  | immediate => some .immediate
  | branch => some .branchOffset
  | memory => some .memoryOffset

/-- Reading the displacement of a word extends the sign of its field. -/
lemma Word.displacement?_decode (word : Word) :
    (Word.decode word).displacement? = (Word.format word).displacementField?.map fun field =>
      signExtend (field.get word) field.width := by
  rw [Word.decode]
  cases Word.format word with
  | register => rfl
  | immediate =>
      exact congrArg (some <| signExtend · Field.immediate.width) (immediate_eq_get word)
  | branch =>
      exact congrArg (some <| signExtend · Field.branchOffset.width) (branchOffset_eq_get word)
  | memory =>
      exact congrArg (some <| signExtend · Field.memoryOffset.width) (memoryOffset_eq_get word)

lemma Field.width_pos (field : Field) : 0 < field.width := by
  cases field <;> decide

lemma Field.width_lt (field : Field) : field.width < wordBits := by
  cases field <;> decide

/-- Only the bits that fit the field of a register choose the register. -/
lemma Register.ofBits_toUInt8_truncate (value : UInt64) :
    ofBits (truncate value 5).toUInt8 = ofBits value.toUInt8 := by
  refine congrArg Register.mk (Fin.ext ?_)
  change (truncate value 5).toUInt8.toNat % 32 = value.toUInt8.toNat % 32
  rw [UInt64.toNat_toUInt8, UInt64.toNat_toUInt8, toNat_truncate]
  omega

/-- What the line of an immediate-format word shows before the immediate. -/
def ImmediateOp.front (op : ImmediateOp) (rd rn : Register) : String :=
  match op with
  | .svc => op.mnemonic ++ " "
  | _ => op.mnemonic ++ " " ++ rd.name ++ ", " ++ rn.name ++ ", "

lemma ImmediateFields.text_signed (op : ImmediateOp) (fields : ImmediateFields) :
    fields.text true op
      = op.front fields.rd fields.rn ++ "#"
        ++ Numeral.signedDecimal fields.signedImmediate.toInt := by
  by_cases hop : op = .svc
  · subst hop
    simp only [text_svc, ImmediateOp.front, numeral, if_true, String.append_assoc]
  · rw [text_of_ne_svc hop, ImmediateOp.front]
    · simp only [numeral, if_true, String.append_assoc]
    · exact hop

namespace BuilderCall

variable (call : BuilderCall)

/-- An operand stands in its field, cut down to the width of the field. -/
lemma get_word {field : Field} (hfield : field ∈ call.operandFields) :
    field.get call.word = truncate (call.value field) field.width := by
  rw [word_eq_assemble,
    get_assemble call.operation.format.fields_apart (call.operandFields_subset hfield)]

/-- A register operand chooses its register by the bits that reach the word. -/
lemma ofBits_get_word {field : Field} (hfield : field ∈ call.operandFields)
    (hwidth : field.width = 5) :
    Register.ofBits (field.get call.word).toUInt8
      = Register.ofBits (call.value field).toUInt8 := by
  rw [call.get_word hfield, hwidth, Register.ofBits_toUInt8_truncate]

lemma operation?_word : Word.operation? call.word = some call.operation := by
  rw [← Word.operation?_decode, operation?_decode_word]

end BuilderCall

/-- **A call of a builder that lacks its displacement.** -/
inductive OpenCall where
  | immediate (op : ImmediateOp) (rd rn : UInt64)
  | branch (op : BranchOp)
  | memory (op : MemoryOp) (rd rn : UInt64) (mode : MemoryMode)
  deriving DecidableEq, Repr

namespace OpenCall

/-- The call with the pattern of a displacement filled in. -/
def fill (pattern : UInt64) : OpenCall → BuilderCall
  | immediate op rd rn => .immediate op rd rn pattern
  | branch op => .branch op pattern
  | memory op rd rn mode => .memory op rd rn mode pattern

/-- The field that the displacement is meant for. -/
def field : OpenCall → Field
  | immediate .. => .immediate
  | branch _ => .branchOffset
  | memory .. => .memoryOffset

/-- Whether the other operands are registers that there are. -/
def RegistersFit : OpenCall → Prop
  | immediate _ rd rn => rd.toNat < 32 ∧ rn.toNat < 32
  | branch _ => True
  | memory _ rd rn _ => rd.toNat < 32 ∧ rn.toNat < 32

/-- What a line shows before a signed displacement.  Offsets within an address are shown as
patterns, and so are immediates if the configuration does not ask for signed ones. -/
def front? (config : Config) : OpenCall → Option String
  | immediate op rd rn =>
    if config.signExtendImmediates then
      some (op.front (Register.ofBits rd.toUInt8) (Register.ofBits rn.toUInt8))
    else none
  | branch op => some (op.mnemonic ++ " ")
  | memory .. => none

variable (call : OpenCall) (pattern : UInt64) (displacement : Int64)

/-! ## The word -/

lemma displacementField?_format :
    (call.fill pattern).operation.format.displacementField? = some call.field := by
  cases call <;> rfl

lemma field_mem_operandFields : call.field ∈ (call.fill pattern).operandFields := by
  cases call <;> simp [field, fill, BuilderCall.operandFields]

lemma value_field : (call.fill pattern).value call.field = pattern := by
  cases call <;> rfl

lemma get_field_word :
    call.field.get (call.fill pattern).word = truncate pattern call.field.width := by
  rw [BuilderCall.get_word _ (call.field_mem_operandFields pattern), value_field]

/-- **What is read back** is the number that the low bits of the displacement stand for. -/
lemma displacement?_decode_word :
    (Word.decode (call.fill displacement.toUInt64).word).displacement?
      = some (signExtend (toTwosComplement displacement call.field.width) call.field.width) := by
  rw [Word.displacement?_decode, BuilderCall.format_word, displacementField?_format,
    Option.map_some, get_field_word]
  rfl

/-- The word takes no more of a displacement than fits. -/
lemma word_fill_truncate :
    (call.fill (truncate pattern call.field.width)).word = (call.fill pattern).word := by
  cases call with
  | immediate op rd rn =>
      simp only [fill, field, BuilderCall.word, ImmediateOp.pack, Field.put_truncate]
  | branch op => simp only [fill, field, BuilderCall.word, BranchOp.pack, Field.put_truncate]
  | memory op rd rn mode =>
      simp only [fill, field, BuilderCall.word, MemoryOp.packMode, Field.put_truncate]

/-! ## The strict encoder -/

lemma operands_fit_iff :
    (∀ operand ∈ (call.fill pattern).operandFields,
        ((call.fill pattern).value operand).toNat < 2 ^ operand.width)
      ↔ call.RegistersFit ∧ pattern.toNat < 2 ^ call.field.width := by
  cases call with
  | branch op =>
      rw [fill, BuilderCall.operandFields, List.forall_mem_singleton, RegistersFit, true_and]
      rfl
  | immediate op rd rn | memory op rd rn mode =>
      simp only [fill, BuilderCall.operandFields, List.forall_mem_cons, List.not_mem_nil,
        false_imp_iff, implies_true, and_true, BuilderCall.value, RegistersFit, and_assoc]
      rfl

variable {call}

/-- **Cut down beforehand, a displacement always passes**, and the word is the same. -/
lemma result_strict_twosComplement (hregisters : call.RegistersFit) :
    ((call.fill (toTwosComplement displacement call.field.width)).run .strict).result
      = .ok (call.fill displacement.toUInt64).word := by
  have hlt : (toTwosComplement displacement call.field.width).toNat < 2 ^ call.field.width := by
    rw [toTwosComplement, toNat_truncate]
    exact Nat.mod_lt _ (Nat.two_pow_pos _)
  rw [BuilderCall.result_run_strict_eq_ok_iff, operands_fit_iff]
  exact ⟨(call.word_fill_truncate displacement.toUInt64).symm, hregisters, hlt⟩

/-- **Handed over whole, a displacement has to fit without its sign.** -/
lemma result_strict_eq_ok_iff (hregisters : call.RegistersFit) :
    (∃ word, ((call.fill displacement.toUInt64).run .strict).result = .ok word)
      ↔ 0 ≤ displacement.toInt ∧ displacement.toInt < 2 ^ call.field.width := by
  simp only [BuilderCall.result_run_strict_eq_ok_iff, exists_eq_left, operands_fit_iff, hregisters,
    true_and, toNat_toUInt64_lt_iff displacement call.field.width_lt]

/-! ## The line -/

/-- **A branch and a signed immediate are shown as the number that is read back.** -/
lemma line_eq_front_append {config : Config} {front : String}
    (h : call.front? config = some front) :
    disassembleWith config (call.fill pattern).word
      = front ++ "#" ++ Numeral.signedDecimal
          (signExtend (truncate pattern call.field.width) call.field.width).toInt := by
  have hop := (call.fill pattern).operation?_word
  have hread := call.get_field_word pattern
  cases call with
  | immediate op rd rn =>
      rw [field, ← Word.immediate_eq_get] at hread
      obtain ⟨hsigned, rfl⟩ : config.signExtendImmediates = true
          ∧ op.front (Register.ofBits rd.toUInt8) (Register.ofBits rn.toUInt8) = front := by
        simpa [front?] using h
      have hrd : Register.ofBits (Word.rd (fill pattern (immediate op rd rn)).word)
          = Register.ofBits rd.toUInt8 :=
        BuilderCall.ofBits_get_word _ (by simp [fill, BuilderCall.operandFields]) rfl
      have hrn : Register.ofBits (Word.rn (fill pattern (immediate op rd rn)).word)
          = Register.ofBits rn.toUInt8 :=
        BuilderCall.ofBits_get_word _ (by simp [fill, BuilderCall.operandFields]) rfl
      rw [Word.disassembleWith_of_immediate hop, hsigned, ImmediateFields.text_signed,
        ← hrd, ← hrn, field, ← hread]
      rfl
  | branch op =>
      rw [field, ← Word.branchOffset_eq_get] at hread
      have hmark : " #" = " " ++ "#" := rfl
      obtain rfl := Option.some.inj h
      rw [Word.disassembleWith_of_branch hop, BranchFields.text, hmark, ← String.append_assoc, field,
        ← hread]
      rfl
  | memory op rd rn mode => cases h

/-! ## Displacements through the codec -/

variable (call)

/-- **A displacement survives exactly when it fits.**  Whatever displacement a builder packs, what
is read back of it is the one number of the field's width that leaves the same remainder, and that
is the displacement itself exactly when it fits the field with its sign.

With registers that there are, the strict encoder makes the same word of the pattern of the
displacement in the field, always; of the displacement as a whole it makes a word exactly when the
displacement fits the field without a sign.

Branches, and immediates under a configuration that shows them signed, are shown as the number that
is read back. -/
theorem displacements_survive_iff_fit :
    ∃ read : Int64,
      (Word.decode (call.fill displacement.toUInt64).word).displacement? = some read
        ∧ (∀ number : ℤ, IsSignedResidue call.field.width displacement.toInt number
          ↔ number = read.toInt)
        ∧ (read = displacement ↔ fitsSigned displacement call.field.width = true)
        ∧ (call.RegistersFit →
          ((call.fill (toTwosComplement displacement call.field.width)).run .strict).result
              = .ok (call.fill displacement.toUInt64).word
            ∧ ((∃ word, ((call.fill displacement.toUInt64).run .strict).result = .ok word)
              ↔ 0 ≤ displacement.toInt ∧ displacement.toInt < 2 ^ call.field.width))
        ∧ ∀ config front, call.front? config = some front →
          disassembleWith config (call.fill displacement.toUInt64).word
            = front ++ "#" ++ Numeral.signedDecimal read.toInt := by
  refine ⟨signExtend (toTwosComplement displacement call.field.width) call.field.width,
    call.displacement?_decode_word displacement, fun number => ?_, ?_,
    fun hregisters => ⟨result_strict_twosComplement displacement hregisters,
      result_strict_eq_ok_iff displacement hregisters⟩,
    fun config front hfront => line_eq_front_append displacement.toUInt64 hfront⟩
  · rw [isSignedResidue_iff_eq_bmod call.field.width_pos,
      toInt_signExtend_toTwosComplement displacement call.field.width_pos call.field.width_lt.le]
  · rw [fitsSigned, beq_iff_eq]

/-- The largest immediate that fits without a sign is accepted, and comes back and is shown as minus
one; the offset of a branch back by one is refused unless it is cut down first. -/
theorem displacements_survive_iff_fit_at_bounds :
    (∃ word, ((fill (Int64.toUInt64 0x3FFFFFFFF) (immediate .add 1 31)).run .strict).result
        = .ok word)
      ∧ disassembleWith Config.standard
          (fill (Int64.toUInt64 0x3FFFFFFFF) (immediate .add 1 31)).word
        = "ADD_IMM x1, sp, " ++ "#" ++ "-1"
      ∧ ((fill (toTwosComplement (-1) 48) (branch .bl)).run .strict).result
        = .ok (fill (Int64.toUInt64 (-1)) (branch .bl)).word
      ∧ ¬∃ word, ((fill (Int64.toUInt64 (-1)) (branch .bl)).run .strict).result = .ok word := by
  obtain ⟨read, hread, -, -, hstrict, hline⟩ :=
    displacements_survive_iff_fit (immediate .add 1 31) 0x3FFFFFFFF
  obtain ⟨-, -, -, -, hbranch, -⟩ := displacements_survive_iff_fit (branch .bl) (-1)
  obtain rfl : (-1 : Int64) = read := Option.some.inj hread
  have hregisters : (immediate .add 1 31).RegistersFit := ⟨by decide, by decide⟩
  refine ⟨(hstrict hregisters).2.mpr (by decide), hline Config.standard _ rfl, (hbranch trivial).1,
    fun haccepted => ?_⟩
  exact absurd ((hbranch trivial).2.mp haccepted) (by decide)

end OpenCall

end WordCodec
