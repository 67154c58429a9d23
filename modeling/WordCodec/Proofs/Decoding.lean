import WordCodec.Payload
import WordCodec.Proofs.Fields

/-!
# What decoding keeps

A payload holds a value for each field of its format, `Payload.operand`, and those values make up a
word again, `Payload.word`.  Decoding and `Payload.word` undo each other as far as either can.

* `word_decode` — the word of a decoded payload is the word it came from, **without its stray
  bits**.  This holds of every word, whether or not its opcode names an operation and its mode an
  addressing mode.
* `decode_word` — the word of a payload decodes to the payload with its operands cut down to their
  fields, `Payload.normal`.  The payload may have been put together by hand; all that is asked of
  it is that its opcode has twelve bits and the tag of its format.

From the first it follows that the decoder forgets exactly the stray bits of a word.
-/

namespace WordCodec

/-! ## Operands and the values of fields -/

/-- A value of at most eight bits survives its way through a byte. -/
lemma toUInt64_toUInt8 {value : UInt64} (h : value.toNat < 2 ^ 8) :
    value.toUInt8.toUInt64 = value := by
  refine UInt64.toNat_inj.mp ?_
  rw [UInt8.toNat_toUInt64, UInt64.toNat_toUInt8, Nat.mod_eq_of_lt h]

/-- The value of a field of at most eight bits survives its way through a byte. -/
lemma toUInt64_toUInt8_get {field : Field} (hwidth : field.width ≤ 8) (word : Word) :
    (field.get word).toUInt8.toUInt64 = field.get word :=
  toUInt64_toUInt8
    (lt_of_lt_of_le (field.toNat_get_lt word) (Nat.pow_le_pow_right (by decide) hwidth))

lemma toUInt64_opcode (word : Word) : (Word.opcode word).toUInt64 = Field.opcode.get word := by
  have h : (Field.opcode.get word).toNat < 2 ^ 12 := Field.opcode.toNat_get_lt word
  refine UInt64.toNat_inj.mp ?_
  rw [Word.opcode, UInt16.toNat_toUInt64, UInt64.toNat_toUInt16, Nat.mod_eq_of_lt (by omega)]

lemma Register.toNat_bits (register : Register) : register.bits.toNat = register.index.val := by
  have h := register.index.isLt
  rw [Register.bits, UInt8.toNat_ofNat', Nat.mod_eq_of_lt (by omega)]

@[simp] lemma Register.ofBits_bits (register : Register) : ofBits register.bits = register := by
  have h : Fin.ofNat 32 register.bits.toNat = register.index := by
    rw [register.toNat_bits]
    exact Fin.ofNat_val_eq_self register.index
  rw [Register.ofBits, h]

/-- Registers are told apart by their bits. -/
lemma Register.bits_injective {register other : Register} (h : register.bits = other.bits) :
    register = other := by
  rw [← register.ofBits_bits, h, other.ofBits_bits]

lemma Register.toNat_bits_lt (register : Register) : register.bits.toNat < 2 ^ 5 := by
  rw [register.toNat_bits]
  exact register.index.isLt

/-- Five bits name a register, and it has these bits. -/
lemma Register.bits_ofBits {bits : UInt8} (h : bits.toNat < 2 ^ 5) :
    (Register.ofBits bits).bits = bits := by
  refine UInt8.toNat_inj.mp ?_
  rw [Register.toNat_bits]
  exact Nat.mod_eq_of_lt h

@[simp] lemma Shift.ofBits_bits (shift : Shift) : ofBits shift.bits = shift := by
  cases shift <;> rfl

lemma Shift.bits_injective {shift other : Shift} (h : shift.bits = other.bits) :
    shift = other := by
  rw [← shift.ofBits_bits, h, other.ofBits_bits]

lemma Shift.toNat_bits_lt (shift : Shift) : shift.bits.toNat < 2 ^ 2 := by
  cases shift <;> decide

lemma Register.truncate_bits (register : Register) :
    truncate register.bits.toUInt64 5 = register.bits.toUInt64 := by
  refine truncate_of_lt ?_
  rw [UInt8.toNat_toUInt64]
  exact register.toNat_bits_lt

lemma Shift.truncate_bits (shift : Shift) :
    truncate shift.bits.toUInt64 Field.shiftType.width = shift.bits.toUInt64 := by
  refine truncate_of_lt ?_
  rw [UInt8.toNat_toUInt64]
  exact shift.toNat_bits_lt

/-- Two bits name a shift, and it has these bits. -/
lemma Shift.bits_ofBits {bits : UInt8} (h : bits.toNat < 2 ^ 2) :
    (Shift.ofBits bits).bits = bits := by
  have hmask : (bits &&& 3).toNat = bits.toNat := by
    rw [UInt8.toNat_and]
    exact Nat.and_two_pow_sub_one_of_lt_two_pow h
  have hcases : bits.toNat = 0 ∨ bits.toNat = 1 ∨ bits.toNat = 2 ∨ bits.toNat = 3 := by omega
  refine UInt8.toNat_inj.mp ?_
  rw [Shift.ofBits, hmask]
  rcases hcases with h | h | h | h <;> rw [h] <;> rfl

namespace Payload

/-! ## The word of a payload -/

/-- **The value of a field** in a payload, as it stands there; a field that the payload's format
does not define has none, and counts as clear. -/
def operand : Payload → Field → UInt64
  | register f, .opcode => f.opcode.toUInt64
  | register f, .rd => f.rd.bits.toUInt64
  | register f, .rn => f.rn.bits.toUInt64
  | register f, .rm => f.rm.bits.toUInt64
  | register f, .shiftType => f.shift.bits.toUInt64
  | register f, .shiftAmount => f.amount.toUInt64
  | immediate f, .opcode => f.opcode.toUInt64
  | immediate f, .rd => f.rd.bits.toUInt64
  | immediate f, .rn => f.rn.bits.toUInt64
  | immediate f, .immediate => f.immediate
  | branch f, .opcode => f.opcode.toUInt64
  | branch f, .branchOffset => f.offset
  | memory f, .opcode => f.opcode.toUInt64
  | memory f, .rd => f.rd.bits.toUInt64
  | memory f, .rn => f.rn.bits.toUInt64
  | memory f, .mode => f.mode.toUInt64
  | memory f, .memoryOffset => f.offset
  | _, _ => 0

/-- The word whose fields hold the operands of a payload, and that has no stray bits. -/
def word (payload : Payload) : Word := assemble payload.format.fields payload.operand

/-- The payload with every operand that may be too wide cut down to its field. -/
def normal : Payload → Payload
  | register f => register { f with amount := f.amount % 0x40 }
  | immediate f => immediate { f with immediate := f.immediate % 0x400000000 }
  | branch f => branch { f with offset := f.offset % 0x1000000000000 }
  | memory f => memory { f with mode := f.mode % 8, offset := f.offset % 0x100000000 }

/-- The payload of a word has the format of the word. -/
lemma format_decode (word : Word) : (Word.decode word).format = Word.format word := by
  rw [Word.decode]
  cases Word.format word <;> rfl

lemma opcode_decode (word : Word) : (Word.decode word).opcode = Word.opcode word := by
  rw [Word.decode]
  cases Word.format word <;> rfl

/-- **Decoding reads every field of the format**, and as it stands. -/
lemma operand_decode (word : Word) {field : Field} (hfield : field ∈ (Word.format word).fields) :
    (Word.decode word).operand field = field.get word := by
  have hregister : ∀ field : Field, field.width = 5 →
      (Register.ofBits (field.get word).toUInt8).bits.toUInt64 = field.get word := by
    intro field hwidth
    have hlt := field.toNat_get_lt word
    rw [hwidth] at hlt
    rw [Register.bits_ofBits, toUInt64_toUInt8_get (by omega)]
    rwa [UInt64.toNat_toUInt8, Nat.mod_eq_of_lt (by omega)]
  have hshift : (Shift.ofBits (Word.shiftType word)).bits.toUInt64 = Field.shiftType.get word := by
    have hlt : (Field.shiftType.get word).toNat < 2 ^ 2 := Field.shiftType.toNat_get_lt word
    rw [Shift.bits_ofBits, Word.shiftType, toUInt64_toUInt8_get (by decide)]
    rwa [Word.shiftType, UInt64.toNat_toUInt8, Nat.mod_eq_of_lt (by omega)]
  rw [Word.decode]
  cases hformat : Word.format word with
  | register =>
      rw [hformat] at hfield
      simp only [Format.fields, List.mem_cons, List.not_mem_nil, or_false] at hfield
      rcases hfield with rfl | rfl | rfl | rfl | rfl | rfl
      · exact toUInt64_opcode word
      · exact hregister .rd rfl
      · exact hregister .rn rfl
      · exact hregister .rm rfl
      · exact hshift
      · exact toUInt64_toUInt8_get (by decide) word
  | immediate =>
      rw [hformat] at hfield
      simp only [Format.fields, List.mem_cons, List.not_mem_nil, or_false] at hfield
      rcases hfield with rfl | rfl | rfl | rfl
      · exact toUInt64_opcode word
      · exact hregister .rd rfl
      · exact hregister .rn rfl
      · exact Word.immediate_eq_get word
  | branch =>
      rw [hformat] at hfield
      simp only [Format.fields, List.mem_cons, List.not_mem_nil, or_false] at hfield
      rcases hfield with rfl | rfl
      · exact toUInt64_opcode word
      · exact Word.branchOffset_eq_get word
  | memory =>
      rw [hformat] at hfield
      simp only [Format.fields, List.mem_cons, List.not_mem_nil, or_false] at hfield
      rcases hfield with rfl | rfl | rfl | rfl | rfl
      · exact toUInt64_opcode word
      · exact hregister .rd rfl
      · exact hregister .rn rfl
      · exact toUInt64_toUInt8_get (by decide) word
      · exact Word.memoryOffset_eq_get word

/-- **Decoding loses just the stray bits.** -/
lemma word_decode (word : Word) :
    (Word.decode word).word = word &&& (Word.format word).mask := by
  rw [Payload.word, format_decode, Format.mask_eq_assemble, ← assemble_get]
  refine assemble_congr fun field hfield => ?_
  rw [operand_decode word hfield]

/-- **A payload is its operands.**  Two payloads of one format with the same value in every field
are the same payload. -/
lemma eq_of_operand_eq : ∀ {payload other : Payload}, payload.format = other.format →
    (∀ field ∈ payload.format.fields, payload.operand field = other.operand field) →
    payload = other
  | register ⟨_, _, _, _, _, _⟩, register ⟨_, _, _, _, _, _⟩, _, h => by
      simp only [format, Format.fields, List.forall_mem_cons, operand, UInt8.toUInt64_inj,
        UInt16.toUInt64_inj] at h
      obtain ⟨hopcode, hrd, hrn, hrm, hshift, hamount, -⟩ := h
      rw [hopcode, Register.bits_injective hrd, Register.bits_injective hrn,
        Register.bits_injective hrm, Shift.bits_injective hshift, hamount]
  | immediate ⟨_, _, _, _⟩, immediate ⟨_, _, _, _⟩, _, h => by
      simp only [format, Format.fields, List.forall_mem_cons, operand, UInt8.toUInt64_inj,
        UInt16.toUInt64_inj] at h
      obtain ⟨hopcode, hrd, hrn, himmediate, -⟩ := h
      rw [hopcode, Register.bits_injective hrd, Register.bits_injective hrn, himmediate]
  | branch ⟨_, _⟩, branch ⟨_, _⟩, _, h => by
      simp only [format, Format.fields, List.forall_mem_cons, operand, UInt16.toUInt64_inj] at h
      obtain ⟨hopcode, hoffset, -⟩ := h
      rw [hopcode, hoffset]
  | memory ⟨_, _, _, _, _⟩, memory ⟨_, _, _, _, _⟩, _, h => by
      simp only [format, Format.fields, List.forall_mem_cons, operand, UInt8.toUInt64_inj,
        UInt16.toUInt64_inj] at h
      obtain ⟨hopcode, hrd, hrn, hmode, hoffset, -⟩ := h
      rw [hopcode, Register.bits_injective hrd, Register.bits_injective hrn, hmode, hoffset]

/-! ## Decoding the word of a payload -/

/-- Whether the opcode of a payload has twelve bits, the first two of which are the tag of the
payload's format. -/
def WellTagged (payload : Payload) : Prop :=
  payload.opcode ≤ 0xFFF ∧ Format.ofOpcode payload.opcode = payload.format

lemma operand_opcode (payload : Payload) : payload.operand .opcode = payload.opcode.toUInt64 := by
  cases payload <;> rfl

/-- An opcode of twelve bits fits its field. -/
lemma truncate_opcode {opcode : UInt16} (h : opcode ≤ 0xFFF) :
    truncate opcode.toUInt64 Field.opcode.width = opcode.toUInt64 := by
  refine truncate_of_lt ?_
  rw [UInt16.toNat_toUInt64]
  exact Nat.lt_succ_of_le (UInt16.le_iff_toNat_le.mp h)

/-- **Normal operands are truncated operands**, field by field. -/
lemma operand_normal {payload : Payload} (hopcode : payload.opcode ≤ 0xFFF) {field : Field}
    (hfield : field ∈ payload.format.fields) :
    payload.normal.operand field = truncate (payload.operand field) field.width := by
  cases payload with
  | register f =>
      simp only [format, Format.fields, List.mem_cons, List.not_mem_nil, or_false] at hfield
      rcases hfield with rfl | rfl | rfl | rfl | rfl | rfl
      · exact (truncate_opcode hopcode).symm
      · exact (Register.truncate_bits f.rd).symm
      · exact (Register.truncate_bits f.rn).symm
      · exact (Register.truncate_bits f.rm).symm
      · exact (Shift.truncate_bits f.shift).symm
      · refine UInt64.toNat_inj.mp ?_
        rw [toNat_truncate]
        rfl
  | immediate f =>
      simp only [format, Format.fields, List.mem_cons, List.not_mem_nil, or_false] at hfield
      rcases hfield with rfl | rfl | rfl | rfl
      · exact (truncate_opcode hopcode).symm
      · exact (Register.truncate_bits f.rd).symm
      · exact (Register.truncate_bits f.rn).symm
      · refine UInt64.toNat_inj.mp ?_
        rw [toNat_truncate]
        rfl
  | branch f =>
      simp only [format, Format.fields, List.mem_cons, List.not_mem_nil, or_false] at hfield
      rcases hfield with rfl | rfl
      · exact (truncate_opcode hopcode).symm
      · refine UInt64.toNat_inj.mp ?_
        rw [toNat_truncate]
        rfl
  | memory f =>
      simp only [format, Format.fields, List.mem_cons, List.not_mem_nil, or_false] at hfield
      rcases hfield with rfl | rfl | rfl | rfl | rfl
      · exact (truncate_opcode hopcode).symm
      · exact (Register.truncate_bits f.rd).symm
      · exact (Register.truncate_bits f.rn).symm
      · refine UInt64.toNat_inj.mp ?_
        rw [toNat_truncate]
        rfl
      · refine UInt64.toNat_inj.mp ?_
        rw [toNat_truncate]
        rfl

/-- **The word of a payload holds its operands**, each cut down to its field. -/
lemma get_word (payload : Payload) {field : Field} (hfield : field ∈ payload.format.fields) :
    field.get payload.word = truncate (payload.operand field) field.width :=
  get_assemble payload.format.fields_apart hfield payload.operand

lemma opcode_word {payload : Payload} (hopcode : payload.opcode ≤ 0xFFF) :
    Word.opcode payload.word = payload.opcode := by
  rw [Word.opcode, get_word payload payload.format.opcode_mem_fields, operand_opcode,
    truncate_opcode hopcode, UInt16.toUInt16_toUInt64]

/-- The word of a payload has its format, if the opcode has the right tag. -/
lemma format_word {payload : Payload} (h : payload.WellTagged) :
    Word.format payload.word = payload.format := by
  rw [Word.format, opcode_word h.1, h.2]

@[simp] lemma format_normal (payload : Payload) : payload.normal.format = payload.format := by
  cases payload <;> rfl

/-- **Packing a payload cuts its operands down and does nothing else to it.** -/
lemma decode_word {payload : Payload} (h : payload.WellTagged) :
    Word.decode payload.word = payload.normal := by
  refine eq_of_operand_eq ?_ fun field hfield => ?_
  · rw [format_decode, format_word h, format_normal]
  · rw [format_decode] at hfield
    rw [operand_decode payload.word hfield]
    rw [format_word h] at hfield
    rw [get_word payload hfield, operand_normal h.1 hfield]

end Payload

/-! ## Forgetting exactly the stray bits -/

namespace Word

/-- Words with the same fields decode alike. -/
lemma decode_congr {word word' : Word}
    (h : ∀ field ∈ (Word.format word).fields, field.get word = field.get word') :
    Word.decode word = Word.decode word' := by
  have hopcode : Field.opcode.get word = Field.opcode.get word' :=
    h .opcode (Word.format word).opcode_mem_fields
  have hformat : Word.format word = Word.format word' := by
    rw [Word.format, Word.format, Word.opcode, Word.opcode, hopcode]
  refine Payload.eq_of_operand_eq ?_ fun field hfield => ?_
  · rw [Payload.format_decode, Payload.format_decode, hformat]
  · rw [Payload.format_decode] at hfield
    rw [Payload.operand_decode word hfield, h field hfield]
    rw [hformat] at hfield
    rw [Payload.operand_decode word' hfield]

/-- **The decoder forgets exactly the bits that the format of the word does not define.**  Two
words have the same payload if and only if they agree on the other bits, whether or not their
opcode names an operation and their mode an addressing mode. -/
theorem decode_eq_decode_iff (word word' : Word) :
    Word.decode word = Word.decode word'
      ↔ word &&& (Word.format word).definedBits = word' &&& (Word.format word).definedBits := by
  rw [← Format.mask_eq_definedBits]
  constructor
  · intro h
    have hformat : Word.format word' = Word.format word := by
      rw [← Payload.format_decode, ← h, Payload.format_decode]
    rw [← Payload.word_decode, h, Payload.word_decode, hformat]
  · intro h
    exact decode_congr ((Format.and_mask_eq_and_mask_iff _ word word').mp h)

end Word

end WordCodec
