import WordCodec.Proofs.Reading

/-!
# The format of a word, told in five ways

A word tells its format by its top two bits, by the fields that decoding finds in it, by the
classification of its opcode, by the tag that the opcode carries, and by the operation that the
opcode names.  Each of these is computed on its own.  Reading an instruction relies on their
agreement: it looks the operation up by the opcode alone, and then expects the operands of just
that operation in the payload.

* `Word.HasFormat` — the ways that do not need an operation, as one property of a word and a format.
* `hasFormat_format` — **they agree on every word**, whether or not its opcode names an operation.
* `hasFormat_of_operation` — an operation that the opcode names is of the same format.

So a word is never refused for the format of its operands, and `opcode_and_mode_decide_reading` says
what becomes of each word instead.
-/

namespace WordCodec

namespace Word

/-! ## Parts of a word as numbers -/

lemma toNat_opcode (word : Word) : (opcode word).toNat = word.toNat / 2 ^ 52 := by
  have hword := word.toNat_lt
  have hshift : (word >>> 52).toNat = word.toNat / 2 ^ 52 := toNat_shiftRight word (by decide)
  rw [opcode_eq_shiftRight, UInt64.toNat_toUInt16, hshift]
  omega

lemma mode_eq_shiftRight (word : Word) : mode word = ((word >>> 34) % 8).toUInt8 := by
  have hshift : (word >>> 34).toNat = word.toNat / 2 ^ 34 := toNat_shiftRight word (by decide)
  have hmode : (Field.mode.get word).toNat = word.toNat / 2 ^ 34 % 8 :=
    toNat_extract word (by decide) 3
  refine UInt8.toNat_inj.mp ?_
  rw [mode, UInt64.toNat_toUInt8, UInt64.toNat_toUInt8, hmode, UInt64.toNat_mod, hshift]
  rfl

/-! ## The format -/

/-- **A word has a format**, by whatever means it is told. -/
structure HasFormat (word : Word) (format : Format) : Prop where
  /-- The top two bits of the word are the tag of the format. -/
  tag : word >>> 62 = format.tag.toUInt64
  /-- Decoding finds the fields of the format. -/
  decoded : (decode word).format = format
  /-- The opcode is classified under the format. -/
  classified : Word.format word = format
  /-- The opcode carries the tag of the format, and of no other. -/
  tagged : ∀ other : Format, other.hasTag (opcode word) = true ↔ other = format

lemma hasFormat_format (word : Word) : HasFormat word (Word.format word) where
  tag := by
    have hword := word.toNat_lt
    have hshift : (word >>> 62).toNat = word.toNat / 2 ^ 62 := toNat_shiftRight word (by decide)
    refine UInt64.toNat_inj.mp ?_
    rw [hshift, UInt16.toNat_toUInt64, Word.format, Format.toNat_tag_ofOpcode, toNat_opcode]
    omega
  decoded := Payload.format_decode word
  classified := rfl
  tagged _ := Format.hasTag_iff

lemma hasFormat_of_operation {word : Word} {op : Operation} (h : operation? word = some op) :
    HasFormat word op.format := by
  rw [← format_of_operation h]
  exact hasFormat_format word

/-- Among the words with an operation, those of the memory format with a code from 5 on have an
undefined mode. -/
lemma hasUndefinedMode_iff {word : Word} {op : Operation} (h : operation? word = some op) :
    HasUndefinedMode word ↔ op.format = .memory ∧ 5 ≤ mode word := by
  rw [HasUndefinedMode, MemoryMode.ofBits?_eq_none_iff, h]
  cases op <;> simp [Operation.format]

end Word

namespace Instruction

/-- **The opcode and the mode of a word decide how it is read.**  If no operation is listed under
the opcode, that is the error, and the only thing that is ever logged.  If one is, it is the only
one, and every way of telling the format of the word gives the format of this operation.  A word of
the memory format is then refused for a mode of 5, 6 or 7, and any other word holds an instruction
with this operation.  That a payload has the operands of another format is never the error. -/
theorem opcode_and_mode_decide_reading (word : Word) :
    (((∀ op ∈ Operation.all, op.raw ≠ (word >>> 52).toUInt16)
          ∧ ofWord word = ⟨.error (.unknownOpcode (word >>> 52).toUInt16),
              [.noOperation (word >>> 52).toUInt16]⟩)
        ∨ ∃ op : Operation, op.IsNamedBy (word >>> 52).toUInt16
          ∧ (Word.decode word).operation? = some op ∧ word.HasFormat op.format
          ∧ ((op.format = .memory ∧ (5 : UInt8) ≤ ((word >>> 34) % 8).toUInt8
              ∧ ofWord word = Checked.fail (.invalidMemoryMode ((word >>> 34) % 8).toUInt8))
            ∨ (¬(op.format = .memory ∧ (5 : UInt8) ≤ ((word >>> 34) % 8).toUInt8)
              ∧ ∃ instruction, ofWord word = Checked.succeed instruction
                ∧ instruction.operation = op)))
      ∧ ∀ opcode expected actual,
          (ofWord word).result ≠ .error (.formatMismatch opcode expected actual) := by
  rw [← Word.opcode_eq_shiftRight, ← Word.mode_eq_shiftRight, Word.operation?_decode]
  obtain ⟨h, hread⟩ | ⟨hmode, hread⟩ | ⟨instruction, h, hmode, hread⟩ := ofWord_cases word
  · refine ⟨.inl ⟨Operation.ofRaw?_eq_none_iff.mp h, hread⟩, ?_⟩
    simp [hread]
  · obtain ⟨op, h⟩ := hmode.1
    have hraw := Operation.ofRaw?_eq_some_iff.mp h
    obtain ⟨hformat, hbits⟩ := (Word.hasUndefinedMode_iff h).mp hmode
    refine ⟨.inr ⟨_, Operation.isNamedBy_of_raw_eq hraw, h, Word.hasFormat_of_operation h,
      .inl ⟨hformat, hbits, hread⟩⟩, ?_⟩
    simp [hread]
  · have hraw := Operation.ofRaw?_eq_some_iff.mp h
    rw [Word.hasUndefinedMode_iff h] at hmode
    refine ⟨.inr ⟨_, Operation.isNamedBy_of_raw_eq hraw, h, Word.hasFormat_of_operation h,
      .inr ⟨hmode, instruction, hread, rfl⟩⟩, ?_⟩
    simp [hread, Checked.succeed]

end Instruction

end WordCodec
