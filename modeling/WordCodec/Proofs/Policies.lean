import WordCodec.Proofs.Reencoding

/-!
# The two policies

The encoder that cuts wide operands down and the encoder that refuses them look at the same
operands and **agree on the word**; they differ in what becomes of an operand that does not fit.

* `result_accept_standard`, `result_accept_strict` — what each of them makes of one operand.
* `fits_of_accept` — an operand that either of them accepted fits its field.

An instruction has one operand that may not fit, and `encode_draws_one_line` puts side by side what
the strict encoder does with it, what the other encoder logs and what is read back.
-/

namespace WordCodec

namespace Encoder

/-! ## One operand under each policy -/

lemma result_accept_standard (field : Field) (value : UInt64) :
    (standard.accept field value).result = .ok (truncate value field.width) := by
  by_cases hkept : truncate value field.width ≠ value
  · simp only [accept, standard, if_pos hkept]
    rfl
  · simp only [accept, standard, if_neg hkept]
    rfl

lemma result_accept_strict (field : Field) (value : UInt64) :
    (strict.accept field value).result = checkOperand field value := by
  simp only [accept, strict]
  cases checkOperand field value <;> rfl

/-- An operand is cut down in silence exactly when there is nothing to cut. -/
lemma log_accept_standard_eq_nil_iff (field : Field) (value : UInt64) :
    (standard.accept field value).log = [] ↔ fits value field.width = true := by
  rw [fits_iff_truncate_eq]
  constructor
  · intro h
    by_contra hkept
    simp only [accept, standard, if_pos hkept] at h
    cases h
  · intro hkept
    simp only [accept, standard, hkept, ne_eq, not_true_eq_false, if_false]
    rfl

/-- An operand that was accepted fits, whatever was done to it. -/
lemma fits_of_accept (encoder : Encoder) {field : Field} {value kept : UInt64}
    (h : (encoder.accept field value).result = .ok kept) : fits kept field.width = true := by
  obtain ⟨policy⟩ := encoder
  cases policy with
  | truncate =>
      have hresult := result_accept_standard field value
      rw [standard, h] at hresult
      rw [Except.ok.inj hresult, fits_iff_truncate_eq, truncate_truncate]
  | reject =>
      have hresult := result_accept_strict field value
      rw [strict, h, checkOperand] at hresult
      split at hresult
      · rename_i hfits
        rwa [Except.ok.inj hresult]
      · cases hresult

/-- An accepted operand of a narrow field survives its way through a byte. -/
lemma toUInt64_toUInt8_of_accept (encoder : Encoder) {field : Field} (hwidth : field.width ≤ 8)
    {value kept : UInt64} (h : (encoder.accept field value).result = .ok kept) :
    kept.toUInt8.toUInt64 = kept := by
  have hlt : kept.toNat < 2 ^ field.width := (fits_iff_toNat_lt _ _).mp (encoder.fits_of_accept h)
  exact toUInt64_toUInt8 (lt_of_lt_of_le hlt (Nat.pow_le_pow_right (by decide) hwidth))

/-- **A refusal names the field and the operand**, uncut. -/
lemma error_of_accept (encoder : Encoder) {field : Field} {value : UInt64} {error : CodecError}
    (h : (encoder.accept field value).result = .error error) :
    error = .operandOutOfRange field value field.width := by
  obtain ⟨policy⟩ := encoder
  cases policy with
  | truncate =>
      have hresult := result_accept_standard field value
      rw [standard, h] at hresult
      cases hresult
  | reject =>
      have hresult := result_accept_strict field value
      rw [strict, h, checkOperand] at hresult
      split at hresult
      · cases hresult
      · exact Except.error.inj hresult

/-! ## One instruction under each policy -/

lemma result_encode_standard (instruction : Instruction) :
    (standard.encode instruction).result = .ok instruction.encode := by
  rw [encode_eq_accept, Checked.result_bind, result_accept_standard]
  rfl

lemma result_encode_strict (instruction : Instruction) :
    (strict.encode instruction).result
      = if fits instruction.wideOperand instruction.wideField.width then .ok instruction.encode
        else .error (.operandOutOfRange instruction.wideField instruction.wideOperand
          instruction.wideField.width) := by
  rw [encode_eq_accept, Checked.result_bind, result_accept_strict, checkOperand]
  split <;> rfl

lemma log_encode_standard_eq_nil_iff (instruction : Instruction) :
    (standard.encode instruction).log = []
      ↔ fits instruction.wideOperand instruction.wideField.width = true := by
  rw [encode_eq_accept, Checked.log_bind_succeed, log_accept_standard_eq_nil_iff]

lemma ofWord_encode_eq_ok_iff (instruction : Instruction) :
    (Instruction.ofWord instruction.encode).result = .ok instruction
      ↔ fits instruction.wideOperand instruction.wideField.width = true := by
  rw [Instruction.ofWord_encode, ← instruction.normal_eq_self_iff]
  exact ⟨Except.ok.inj, congrArg Except.ok⟩

/-- **The strict encoder, the log and the round trip draw one line.**  The strict encoder takes
just the instructions that the other encoder packs in silence, and they are the ones that are read
back as they were.  Both encoders make the word of the builders; the only refusal names the wide
operand of the instruction, uncut, and the field it was meant for. -/
theorem encode_draws_one_line (instruction : Instruction) :
    [∃ word, (strict.encode instruction).result = .ok word,
      (standard.encode instruction).log = [],
      (Instruction.ofWord instruction.encode).result = .ok instruction].TFAE
      ∧ (standard.encode instruction).result = .ok instruction.encode
      ∧ ((strict.encode instruction).result = .ok instruction.encode
        ∨ (strict.encode instruction).result
          = .error (.operandOutOfRange instruction.wideField instruction.wideOperand
              instruction.wideField.width)) := by
  refine ⟨?_, result_encode_standard instruction, ?_⟩
  · have hstrict : (∃ word, (strict.encode instruction).result = .ok word)
        ↔ fits instruction.wideOperand instruction.wideField.width = true := by
      rw [result_encode_strict]
      split <;> simp [*]
    tfae_have 1 ↔ 2 := hstrict.trans (log_encode_standard_eq_nil_iff instruction).symm
    tfae_have 2 ↔ 3 :=
      (log_encode_standard_eq_nil_iff instruction).trans (ofWord_encode_eq_ok_iff instruction).symm
    tfae_finish
  · rw [result_encode_strict]
    split
    · exact Or.inl rfl
    · exact Or.inr rfl

end Encoder

end WordCodec
