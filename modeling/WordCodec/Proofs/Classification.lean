import WordCodec.Proofs.Disassembly
import WordCodec.Proofs.Reencoding

/-!
# The line of a word and the instruction of a word

Reading the instruction of a word and showing the word as a line are written independently, one
with errors and the other without.  They sort words alike.

* A word without operation is the one whose line begins with `<unknown opcode`
  (`unknown_prefix_iff`): the line of every other word begins with a mnemonic.
* A word in an undefined addressing mode is the one whose line ends with `(mode …)`
  (`modeRemark_suffix_line_iff`).  Names and punctuation have no opening parenthesis, `Plain`, so
  that the only one of a line, if any, opens a remark on the mode.
* Any other word holds an instruction, and the line of the instruction is that of the word, because
  a line does not show the stray bits that packing clears.
-/

namespace WordCodec

/-! ## Parentheses in a line -/

/-- Whether a text has no opening parenthesis. -/
def Plain (text : String) : Prop := '(' ∉ text.toList

instance (text : String) : Decidable (Plain text) :=
  inferInstanceAs (Decidable ('(' ∉ text.toList))

lemma IsName.plain {text : String} (h : IsName text) : Plain text := h.notMem (by decide)

@[simp] lemma plain_append {a b : String} : Plain (a ++ b) ↔ Plain a ∧ Plain b := by
  simp [Plain, String.toList_append]

lemma toList_prefix_iff {start text : String} :
    start.toList <+: text.toList ↔ ∃ rest, text = start ++ rest := by
  constructor
  · rintro ⟨rest, hrest⟩
    refine ⟨String.ofList rest, String.toList_inj.mp ?_⟩
    rw [String.toList_append, String.toList_ofList, hrest]
  · rintro ⟨rest, rfl⟩
    rw [String.toList_append]
    exact List.prefix_append _ _

/-- What begins with a character is at the end of a text only behind the part without it. -/
lemma suffix_append_iff_of_notMem {α : Type*} {c : α} {t : List α} :
    ∀ {a b : List α}, c ∉ a → (c :: t <:+ a ++ b ↔ c :: t <:+ b)
  | [], _, _ => Iff.rfl
  | d :: a, b, h => by
      have hd : c ≠ d := List.ne_of_not_mem_cons h
      have ha : c ∉ a := List.not_mem_of_not_mem_cons h
      rw [List.cons_append, List.suffix_cons_iff, suffix_append_iff_of_notMem ha]
      simp [hd]

/-- The remark that no addressing mode has a code. -/
def modeRemark (bits : UInt8) : String := "(mode " ++ Numeral.decimal bits.toNat ++ ")"

/-- A remark has one opening parenthesis, at its beginning. -/
lemma exists_toList_modeRemark (bits : UInt8) :
    ∃ inner, (modeRemark bits).toList = '(' :: inner ∧ '(' ∉ inner := by
  refine ⟨("mode " ++ Numeral.decimal bits.toNat ++ ")").toList, ?_, ?_⟩
  · simp [modeRemark, String.toList_append]
  · have hplain : Plain ("mode " ++ Numeral.decimal bits.toNat ++ ")") := by
      rw [plain_append, plain_append]
      exact ⟨⟨by decide, (isName_decimal _).plain⟩, by decide⟩
    exact hplain

lemma modeRemark_inj {bits bits' : UInt8} : modeRemark bits = modeRemark bits' ↔ bits = bits' := by
  rw [modeRemark, modeRemark, String.append_left_inj, String.append_right_inj,
    Numeral.decimal_inj, UInt8.toNat_inj]

/-- **A remark at the end of a line is behind the plain part of the line.** -/
lemma modeRemark_suffix_append_iff {text rest : String} (h : Plain text) (bits : UInt8) :
    (modeRemark bits).toList <:+ (text ++ rest).toList
      ↔ (modeRemark bits).toList <:+ rest.toList := by
  obtain ⟨inner, hremark, -⟩ := exists_toList_modeRemark bits
  rw [hremark, String.toList_append, suffix_append_iff_of_notMem h]

lemma not_modeRemark_suffix {text : String} (h : Plain text) (bits : UInt8) :
    ¬(modeRemark bits).toList <:+ text.toList := by
  intro hsuffix
  obtain ⟨inner, hremark, -⟩ := exists_toList_modeRemark bits
  refine h (hsuffix.subset ?_)
  rw [hremark]
  exact List.mem_cons_self

/-- Behind the one parenthesis a remark has to be all that is left. -/
lemma modeRemark_suffix_cons_iff {bits : UInt8} {rest : List Char} (h : '(' ∉ rest) :
    (modeRemark bits).toList <:+ '(' :: rest ↔ (modeRemark bits).toList = '(' :: rest := by
  obtain ⟨inner, hremark, -⟩ := exists_toList_modeRemark bits
  rw [hremark, List.suffix_cons_iff]
  constructor
  · rintro (heq | hproper)
    · exact heq
    · exact absurd (hproper.subset List.mem_cons_self) h
  · exact Or.inl

lemma modeRemark_suffix_iff {bits bits' : UInt8} :
    (modeRemark bits).toList <:+ (modeRemark bits').toList ↔ bits = bits' := by
  obtain ⟨inner, hremark, hplain⟩ := exists_toList_modeRemark bits'
  rw [hremark, modeRemark_suffix_cons_iff hplain, ← hremark, String.toList_inj, modeRemark_inj]

/-! ## Lines without a remark -/

lemma Operation.plain_mnemonic (op : Operation) : Plain op.mnemonic := op.isName_mnemonic.plain

lemma Register.plain_name (register : Register) : Plain register.name := register.isName_name.plain

lemma plain_unknownText (opcode : UInt16) : Plain (unknownText opcode) := by
  rw [unknownText_eq, plain_append, plain_append]
  exact ⟨by decide, (isName_opcodeText opcode).plain, by decide⟩

lemma RegisterFields.plain_text (op : RegisterOp) (fields : RegisterFields) :
    Plain (fields.text op) := by
  have hop : Plain op.mnemonic := Operation.plain_mnemonic (.register op)
  by_cases hbare : op = .hlt ∨ op = .nop
  · rwa [text_of_bare hbare]
  · have hshift : Plain fields.shiftText := by
      rw [shiftText]
      split
      · decide
      · simp only [plain_append]
        exact ⟨by decide, fields.shift.isName_mnemonic.plain, by decide, (isName_decimal _).plain⟩
    rw [text_of_not_bare hbare]
    simp only [plain_append]
    exact ⟨hop, by decide, fields.rd.plain_name, by decide, fields.rn.plain_name, by decide,
      fields.rm.plain_name, hshift⟩

lemma ImmediateFields.plain_text (signed : Bool) (op : ImmediateOp) (fields : ImmediateFields) :
    Plain (fields.text signed op) := by
  have hop : Plain op.mnemonic := Operation.plain_mnemonic (.immediate op)
  have hnumeral : Plain (fields.numeral signed) := (isName_numeral signed fields).plain
  by_cases hsvc : op = .svc
  · subst hsvc
    rw [text_svc]
    simp only [plain_append]
    exact ⟨hop, by decide, by decide, hnumeral⟩
  · rw [text_of_ne_svc hsvc]
    simp only [plain_append]
    exact ⟨hop, by decide, fields.rd.plain_name, by decide, fields.rn.plain_name, by decide,
      by decide, hnumeral⟩

lemma BranchFields.plain_text (op : BranchOp) (fields : BranchFields) : Plain (fields.text op) := by
  have hop : Plain op.mnemonic := Operation.plain_mnemonic (.branch op)
  rw [text_eq]
  simp only [plain_append]
  exact ⟨hop, by decide, (isName_signedDecimal _).plain⟩

/-! ## The remark of a memory-format line -/

namespace MemoryFields

/-- The name of a defined mode is not shown as a remark of this kind. -/
lemma not_modeRemark_suffix_name (mode : MemoryMode) (bits : UInt8) :
    ¬(modeRemark bits).toList <:+ ("] (" ++ (mode.name ++ ")")).toList := by
  have hsplit : ("] (" ++ (mode.name ++ ")")).toList
      = "] ".toList ++ '(' :: (mode.name ++ ")").toList := by simp
  have hname : '(' ∉ (mode.name ++ ")").toList := by cases mode <;> decide
  have hbracket : '(' ∉ "] ".toList := by decide
  obtain ⟨inner, hremark, -⟩ := exists_toList_modeRemark bits
  rw [hsplit, hremark, suffix_append_iff_of_notMem hbracket, ← hremark,
    modeRemark_suffix_cons_iff hname]
  intro heq
  cases mode <;> simp [modeRemark, MemoryMode.name] at heq

lemma modeRemark_suffix_closing_iff {mode bits : UInt8} :
    (modeRemark bits).toList <:+ (closing mode).toList
      ↔ MemoryMode.ofBits? mode = none ∧ bits = mode := by
  rw [closing]
  cases hmode : MemoryMode.ofBits? mode with
  | none =>
      have hclosing : "] (mode " ++ (Numeral.decimal mode.toNat ++ ")") = "] " ++ modeRemark mode := by
        simp [modeRemark, ← String.append_assoc]
      have hplain : Plain "] " := by decide
      simp only [hclosing, modeRemark_suffix_append_iff hplain, modeRemark_suffix_iff, true_and]
  | some mode =>
      refine iff_of_false ?_ fun h => Option.some_ne_none mode h.1
      cases mode with
      | offset =>
          have hplain : Plain "]" := by decide
          exact not_modeRemark_suffix hplain bits
      | preIndex =>
          have hplain : Plain "]!" := by decide
          exact not_modeRemark_suffix hplain bits
      | postIndex => exact not_modeRemark_suffix_name .postIndex bits
      | register => exact not_modeRemark_suffix_name .register bits
      | scaled => exact not_modeRemark_suffix_name .scaled bits

/-- **A line ends with the remark on the code of its mode**, if the mode is undefined, and with no
such remark otherwise. -/
lemma modeRemark_suffix_text_iff {op : MemoryOp} {fields : MemoryFields} {bits : UInt8} :
    (modeRemark bits).toList <:+ (fields.text op).toList
      ↔ MemoryMode.ofBits? fields.mode = none ∧ bits = fields.mode := by
  have hop : Plain op.mnemonic := Operation.plain_mnemonic (.memory op)
  have hspace : Plain " " := by decide
  have hcomma : Plain ", " := by decide
  have hbracket : Plain "[" := by decide
  rw [text_eq, modeRemark_suffix_append_iff hop, modeRemark_suffix_append_iff hspace,
    modeRemark_suffix_append_iff fields.rd.plain_name, modeRemark_suffix_append_iff hcomma,
    modeRemark_suffix_append_iff hbracket, modeRemark_suffix_append_iff fields.rn.plain_name,
    afterBase]
  have hhex : Plain (Numeral.hex fields.offset.toNat) := (isName_hex _).plain
  have hmark : Plain "#" := by decide
  -- the two modes that may close the brackets right behind the base are defined
  split
  · rename_i hpost
    have hplain : Plain ("], " ++ ("#" ++ Numeral.hex fields.offset.toNat)) := by
      simp only [plain_append]
      exact ⟨by decide, hmark, hhex⟩
    refine iff_of_false (not_modeRemark_suffix hplain bits) fun h => ?_
    rw [hpost] at h
    exact absurd h.1 (by decide)
  split
  · rename_i hoffset
    refine iff_of_false (not_modeRemark_suffix (by decide) bits) fun h => ?_
    rw [hoffset.1] at h
    exact absurd h.1 (by decide)
  · rw [modeRemark_suffix_append_iff hcomma, modeRemark_suffix_append_iff hmark,
      modeRemark_suffix_append_iff hhex, modeRemark_suffix_closing_iff]

end MemoryFields

/-! ## Reading a word and showing it -/

namespace Word

variable {config : Config} {word : Word}

/-- **The line of a word without operation** is the one that begins like this. -/
lemma unknown_prefix_iff (config : Config) (word : Word) :
    "<unknown opcode".toList <+: (disassembleWith config word).toList
      ↔ operation? word = none := by
  rw [toList_prefix_iff]
  constructor
  · rintro ⟨more, hmore⟩
    cases h : operation? word with
    | none => rfl
    | some op =>
        refine absurd ?_ (not_endsName_line config h)
        rw [hmore]
        exact EndsName.append (by decide) (by decide) more
  · intro h
    refine ⟨" " ++ (opcodeText (opcode word) ++ ">"), ?_⟩
    rw [disassembleWith_of_unknown h, unknownText_eq, ← String.append_assoc]
    rfl

/-- **The line of a word in an undefined mode** is the one that ends with a remark on the mode. -/
lemma modeRemark_suffix_line_iff {bits : UInt8} :
    (modeRemark bits).toList <:+ (disassembleWith config word).toList
      ↔ HasUndefinedMode word ∧ bits = mode word := by
  cases h : operation? word with
  | none =>
      rw [disassembleWith_of_unknown h]
      refine iff_of_false (not_modeRemark_suffix (plain_unknownText _) bits) ?_
      rintro ⟨⟨⟨op, hop⟩, -⟩, -⟩
      rw [h] at hop
      cases hop
  | some op =>
      cases op with
      | register op =>
          rw [disassembleWith_of_register h]
          exact iff_of_false (not_modeRemark_suffix (RegisterFields.plain_text _ _) bits)
            fun hmode => not_hasUndefinedMode h (by simp) hmode.1
      | immediate op =>
          rw [disassembleWith_of_immediate h]
          exact iff_of_false (not_modeRemark_suffix (ImmediateFields.plain_text _ _ _) bits)
            fun hmode => not_hasUndefinedMode h (by simp) hmode.1
      | branch op =>
          rw [disassembleWith_of_branch h]
          exact iff_of_false (not_modeRemark_suffix (BranchFields.plain_text _ _) bits)
            fun hmode => not_hasUndefinedMode h (by simp) hmode.1
      | memory op =>
          have hop : ∃ op, operation? word = some (.memory op) := ⟨op, h⟩
          rw [disassembleWith_of_memory h, MemoryFields.modeRemark_suffix_text_iff,
            HasUndefinedMode, and_iff_right hop]
          rfl

lemma disassemble_of_unknown (h : operation? word = none) :
    disassemble word
      = "<unknown opcode 0x" ++ String.ofList (Numeral.threeDigits (opcode word).toNat) ++ ">" := by
  rw [disassemble, disassembleWith_of_unknown h, unknownText_eq, opcodeText_eq (opcode_le word),
    ← String.append_assoc, ← String.append_assoc]
  rfl

end Word

namespace Instruction

/-- An instruction has the line of any word that holds it. -/
lemma text_of_ofWord {word : Word} {instruction : Instruction}
    (h : (ofWord word).result = .ok instruction) : instruction.text = disassemble word := by
  rw [text, encode_of_ofWord h, disassemble, disassemble, disassembleWith, disassembleWith,
    Word.decode_definedPart]

/-- **Reading a word and showing it classify every word alike.**  Where no operation is found the
line shows the opcode, in three digits; where no addressing mode is found it ends with the code of
the mode; and any other word holds an instruction whose line is that of the word. -/
theorem reading_and_showing_agree (word : Word) :
    ((∃ opcode, (ofWord word).result = .error (.unknownOpcode opcode))
        ↔ "<unknown opcode".toList <+: (disassemble word).toList)
      ∧ (∀ opcode, (ofWord word).result = .error (.unknownOpcode opcode)
        ↔ opcode = (word >>> 52).toUInt16
          ∧ disassemble word
            = "<unknown opcode 0x" ++ String.ofList (Numeral.threeDigits opcode.toNat) ++ ">")
      ∧ (∀ bits, (ofWord word).result = .error (.invalidMemoryMode bits)
        ↔ ("(mode " ++ Numeral.decimal bits.toNat ++ ")").toList <:+ (disassemble word).toList)
      ∧ ((∃ opcode, (ofWord word).result = .error (.unknownOpcode opcode))
        ∨ (∃ bits, (ofWord word).result = .error (.invalidMemoryMode bits))
        ∨ ∃ instruction, (ofWord word).result = .ok instruction
          ∧ instruction.text = disassemble word) := by
  refine ⟨?_, fun opcode => ?_, fun bits => ?_, ?_⟩
  · rw [disassemble, Word.unknown_prefix_iff]
    simp only [result_eq_unknownOpcode_iff, exists_and_left, exists_eq, and_true]
  · rw [result_eq_unknownOpcode_iff, ← Word.opcode_eq_shiftRight]
    constructor
    · rintro ⟨h, rfl⟩
      exact ⟨rfl, Word.disassemble_of_unknown h⟩
    · rintro ⟨rfl, hline⟩
      refine ⟨(Word.unknown_prefix_iff Config.standard word).mp ?_, rfl⟩
      rw [← disassemble, toList_prefix_iff, hline]
      refine ⟨" 0x" ++ (String.ofList (Numeral.threeDigits word.opcode.toNat) ++ ">"), ?_⟩
      rw [← String.append_assoc, ← String.append_assoc]
      rfl
  · rw [result_eq_invalidMemoryMode_iff, disassemble]
    exact Word.modeRemark_suffix_line_iff.symm
  · obtain ⟨-, hread⟩ | ⟨-, hread⟩ | ⟨instruction, -, -, hread⟩ := ofWord_cases word
    · exact .inl ⟨word.opcode, congrArg Checked.result hread⟩
    · exact .inr (.inl ⟨word.mode, congrArg Checked.result hread⟩)
    · have hresult : (ofWord word).result = .ok instruction := congrArg Checked.result hread
      exact .inr (.inr ⟨instruction, hresult, text_of_ofWord hresult⟩)

/-- The word has stray bits as well, which are not shown. -/
example : disassemble 0xDC00881F00000010 = "LDR x1, [x2, #0x10] (mode 7)" := rfl

end Instruction

end WordCodec
