import WordCodec.Proofs.Lines
import WordCodec.Proofs.Reading

/-!
# What a line says about its word

Every word has a line, and many words share one: a line leaves out the stray bits, the operands of
`HLT` and `NOP`, the registers of `SVC` and the kind of a shift by zero.  `disassembleWith_eq_iff`
says that it leaves out **nothing else**, whichever way immediates are shown.

* `Word.ShownAlike` — two words show the same operation and the same operands.
* `exists_eq_mnemonic_append` — a line begins with the mnemonic of the operation.  So two words with
  the same line hold the same operation, and `Lines.lean` compares the fields of that operation.
* `not_endsName_line` — so it does not begin with punctuation, as the line of a word without
  operation does.
-/

namespace WordCodec

/-- **Two words show the same.**  Where their opcodes name no operation, these are equal.
Otherwise they hold the same operation, and agree on the fields that its line shows. -/
inductive Word.ShownAlike (word word' : Word) : Prop where
  | unknown (h : operation? word = none) (h' : operation? word' = none)
    (hopcode : opcode word = opcode word')
  /-- The operation has no operands. -/
  | bare (op : RegisterOp) (hbare : op = .hlt ∨ op = .nop)
    (h : operation? word = some (.register op)) (h' : operation? word' = some (.register op))
  /-- The kind of a shift by zero is not shown. -/
  | register (op : RegisterOp) (hbare : ¬(op = .hlt ∨ op = .nop))
    (h : operation? word = some (.register op)) (h' : operation? word' = some (.register op))
    (hrd : rd word = rd word') (hrn : rn word = rn word') (hrm : rm word = rm word')
    (hamount : shiftAmount word = shiftAmount word')
    (htype : shiftAmount word ≠ 0 → shiftType word = shiftType word')
  | call (h : operation? word = some (.immediate .svc))
    (h' : operation? word' = some (.immediate .svc)) (himmediate : immediate word = immediate word')
  | immediate (op : ImmediateOp) (hop : op ≠ .svc)
    (h : operation? word = some (.immediate op)) (h' : operation? word' = some (.immediate op))
    (hrd : rd word = rd word') (hrn : rn word = rn word')
    (himmediate : immediate word = immediate word')
  | branch (op : BranchOp)
    (h : operation? word = some (.branch op)) (h' : operation? word' = some (.branch op))
    (hoffset : branchOffset word = branchOffset word')
  /-- The mode need not be defined. -/
  | memory (op : MemoryOp)
    (h : operation? word = some (.memory op)) (h' : operation? word' = some (.memory op))
    (hrd : rd word = rd word') (hrn : rn word = rn word') (hmode : mode word = mode word')
    (hoffset : memoryOffset word = memoryOffset word')

lemma unknownText_eq (opcode : UInt16) :
    unknownText opcode = "<unknown opcode " ++ (opcodeText opcode ++ ">") :=
  String.append_assoc

namespace Word

variable {config : Config} {word word' : Word}

/-! ## The line of a word -/

/-- Without an operation, the line shows the opcode. -/
lemma disassembleWith_of_unknown (h : operation? word = none) :
    disassembleWith config word = unknownText (opcode word) := by
  unfold disassembleWith Payload.text
  rw [operation?_decode, h, Payload.opcode_decode]

/-- With an operation, the line is what its format makes of the fields of the word. -/
lemma disassembleWith_of_register {op : RegisterOp} (h : operation? word = some (.register op)) :
    disassembleWith config word = (registerFields word).text op := by
  unfold disassembleWith Payload.text
  rw [operation?_decode, h, decode_of_register h]

lemma disassembleWith_of_immediate {op : ImmediateOp}
    (h : operation? word = some (.immediate op)) :
    disassembleWith config word
      = (immediateFields word).text config.signExtendImmediates op := by
  unfold disassembleWith Payload.text
  rw [operation?_decode, h, decode_of_immediate h]

lemma disassembleWith_of_branch {op : BranchOp} (h : operation? word = some (.branch op)) :
    disassembleWith config word = (branchFields word).text op := by
  unfold disassembleWith Payload.text
  rw [operation?_decode, h, decode_of_branch h]

lemma disassembleWith_of_memory {op : MemoryOp} (h : operation? word = some (.memory op)) :
    disassembleWith config word = (memoryFields word).text op := by
  unfold disassembleWith Payload.text
  rw [operation?_decode, h, decode_of_memory h]

/-! ## The operation of a line -/

/-- **A line begins with the mnemonic**, and the mnemonic ends where it seems to. -/
lemma exists_eq_mnemonic_append (config : Config) {op : Operation}
    (h : operation? word = some op) :
    ∃ rest, EndsName rest ∧ disassembleWith config word = op.mnemonic ++ rest := by
  cases op with
  | register op =>
      rw [disassembleWith_of_register h]
      by_cases hbare : op = .hlt ∨ op = .nop
      · refine ⟨"", endsName_empty, ?_⟩
        rw [RegisterFields.text_of_bare hbare, String.append_empty]
        rfl
      · exact ⟨_, endsName_space _, RegisterFields.text_of_not_bare hbare _⟩
  | immediate op =>
      rw [disassembleWith_of_immediate h]
      by_cases hop : op = .svc
      · subst hop
        exact ⟨_, endsName_space _, ImmediateFields.text_svc _ _⟩
      · exact ⟨_, endsName_space _, ImmediateFields.text_of_ne_svc hop _ _⟩
  | branch op =>
      rw [disassembleWith_of_branch h]
      exact ⟨_, EndsName.append (by decide) (by decide) _, BranchFields.text_eq op _⟩
  | memory op =>
      rw [disassembleWith_of_memory h]
      exact ⟨_, endsName_space _, MemoryFields.text_eq op _⟩

/-- Words with the same line hold the same operation, if they hold one. -/
lemma operation_eq_of_line_eq {op op' : Operation} (h : operation? word = some op)
    (h' : operation? word' = some op')
    (hline : disassembleWith config word = disassembleWith config word') : op = op' := by
  obtain ⟨rest, hrest, htext⟩ := exists_eq_mnemonic_append config h
  obtain ⟨rest', hrest', htext'⟩ := exists_eq_mnemonic_append config h'
  rw [htext, htext', append_eq_append_iff op.isName_mnemonic op'.isName_mnemonic hrest hrest',
    Operation.mnemonic_inj] at hline
  exact hline.1

/-- No line of an operation begins with punctuation. -/
lemma not_endsName_line (config : Config) {op : Operation} (h : operation? word = some op) :
    ¬EndsName (disassembleWith config word) := by
  intro hline
  obtain ⟨rest, hrest, htext⟩ := exists_eq_mnemonic_append config h
  have hempty : "" ++ (op.mnemonic ++ rest) = op.mnemonic ++ rest := String.empty_append
  have hname : IsName "" := by decide
  rw [htext] at hline
  rw [append_eq_append_iff hname op.isName_mnemonic hline hrest] at hempty
  exact op.mnemonic_ne_empty hempty.1.symm

/-- A word without an operation has a line of its own kind. -/
lemma line_ne_of_unknown {op : Operation} (h : operation? word = none)
    (h' : operation? word' = some op) :
    disassembleWith config word ≠ disassembleWith config word' := by
  intro hline
  refine not_endsName_line config h' ?_
  rw [← hline, disassembleWith_of_unknown h, unknownText_eq]
  exact EndsName.append (by decide) (by decide) _

lemma line_eq_iff_of_unknown (h : operation? word = none) (h' : operation? word' = none) :
    disassembleWith config word = disassembleWith config word' ↔ opcode word = opcode word' := by
  rw [disassembleWith_of_unknown h, disassembleWith_of_unknown h', unknownText_eq, unknownText_eq,
    String.append_right_inj, String.append_left_inj]
  exact ⟨opcodeText_inj (opcode_le word) (opcode_le word'), congrArg opcodeText⟩

/-! ## The operands of a line -/

lemma ofBits_rd_inj : Register.ofBits (rd word) = Register.ofBits (rd word') ↔ rd word = rd word' :=
  Register.ofBits_inj (Field.rd.toNat_toUInt8_get_lt word) (Field.rd.toNat_toUInt8_get_lt word')

lemma ofBits_rn_inj : Register.ofBits (rn word) = Register.ofBits (rn word') ↔ rn word = rn word' :=
  Register.ofBits_inj (Field.rn.toNat_toUInt8_get_lt word) (Field.rn.toNat_toUInt8_get_lt word')

lemma ofBits_rm_inj : Register.ofBits (rm word) = Register.ofBits (rm word') ↔ rm word = rm word' :=
  Register.ofBits_inj (Field.rm.toNat_toUInt8_get_lt word) (Field.rm.toNat_toUInt8_get_lt word')

lemma ofBits_shiftType_inj :
    Shift.ofBits (shiftType word) = Shift.ofBits (shiftType word')
      ↔ shiftType word = shiftType word' :=
  Shift.ofBits_inj (Field.shiftType.toNat_toUInt8_get_lt word)
    (Field.shiftType.toNat_toUInt8_get_lt word')

/-- The type of the shift is shown only with an amount that is not zero. -/
lemma line_eq_iff_of_register {op : RegisterOp} (h : operation? word = some (.register op))
    (h' : operation? word' = some (.register op)) (hbare : ¬(op = .hlt ∨ op = .nop)) :
    disassembleWith config word = disassembleWith config word'
      ↔ rd word = rd word' ∧ rn word = rn word' ∧ rm word = rm word'
        ∧ shiftAmount word = shiftAmount word'
        ∧ (shiftAmount word ≠ 0 → shiftType word = shiftType word') := by
  rw [disassembleWith_of_register h, disassembleWith_of_register h',
    RegisterFields.text_eq_text_iff hbare]
  simp only [registerFields, ofBits_rd_inj, ofBits_rn_inj, ofBits_rm_inj, ofBits_shiftType_inj]

/-- A call of the supervisor shows no register. -/
lemma line_eq_iff_of_call (h : operation? word = some (.immediate .svc))
    (h' : operation? word' = some (.immediate .svc)) :
    disassembleWith config word = disassembleWith config word'
      ↔ immediate word = immediate word' := by
  rw [disassembleWith_of_immediate h, disassembleWith_of_immediate h',
    ImmediateFields.text_svc_eq_iff (toNat_immediate_lt word) (toNat_immediate_lt word')]
  rfl

lemma line_eq_iff_of_immediate {op : ImmediateOp} (h : operation? word = some (.immediate op))
    (h' : operation? word' = some (.immediate op)) (hop : op ≠ .svc) :
    disassembleWith config word = disassembleWith config word'
      ↔ rd word = rd word' ∧ rn word = rn word' ∧ immediate word = immediate word' := by
  rw [disassembleWith_of_immediate h, disassembleWith_of_immediate h',
    ImmediateFields.text_eq_text_iff hop (toNat_immediate_lt word) (toNat_immediate_lt word')]
  simp only [immediateFields, ofBits_rd_inj, ofBits_rn_inj]

lemma line_eq_iff_of_branch {op : BranchOp} (h : operation? word = some (.branch op))
    (h' : operation? word' = some (.branch op)) :
    disassembleWith config word = disassembleWith config word'
      ↔ branchOffset word = branchOffset word' := by
  rw [disassembleWith_of_branch h, disassembleWith_of_branch h',
    BranchFields.text_eq_text_iff (toNat_branchOffset_lt word) (toNat_branchOffset_lt word')]
  rfl

/-- All operands of a memory operation are shown, an undefined mode among them. -/
lemma line_eq_iff_of_memory {op : MemoryOp} (h : operation? word = some (.memory op))
    (h' : operation? word' = some (.memory op)) :
    disassembleWith config word = disassembleWith config word'
      ↔ rd word = rd word' ∧ rn word = rn word' ∧ mode word = mode word'
        ∧ memoryOffset word = memoryOffset word' := by
  rw [disassembleWith_of_memory h, disassembleWith_of_memory h',
    MemoryFields.text_eq_text_iff (Field.mode.toNat_toUInt8_get_lt word)
      (Field.mode.toNat_toUInt8_get_lt word')]
  simp only [memoryFields, ofBits_rd_inj, ofBits_rn_inj]

/-! ## Words with the same line -/

/-- **A line tells everything that it shows.** -/
lemma shownAlike_of_line_eq (hline : disassembleWith config word = disassembleWith config word') :
    ShownAlike word word' := by
  cases h : operation? word with
  | none =>
      cases h' : operation? word' with
      | none => exact .unknown h h' ((line_eq_iff_of_unknown h h').mp hline)
      | some op => exact absurd hline (line_ne_of_unknown h h')
  | some op =>
      cases h' : operation? word' with
      | none => exact absurd hline.symm (line_ne_of_unknown h' h)
      | some op' =>
          obtain rfl : op = op' := operation_eq_of_line_eq h h' hline
          cases op with
          | register op =>
              by_cases hbare : op = .hlt ∨ op = .nop
              · exact .bare op hbare h h'
              · obtain ⟨hrd, hrn, hrm, hamount, htype⟩ :=
                  (line_eq_iff_of_register h h' hbare).mp hline
                exact .register op hbare h h' hrd hrn hrm hamount htype
          | immediate op =>
              by_cases hop : op = .svc
              · subst hop
                exact .call h h' ((line_eq_iff_of_call h h').mp hline)
              · obtain ⟨hrd, hrn, himmediate⟩ := (line_eq_iff_of_immediate h h' hop).mp hline
                exact .immediate op hop h h' hrd hrn himmediate
          | branch op => exact .branch op h h' ((line_eq_iff_of_branch h h').mp hline)
          | memory op =>
              obtain ⟨hrd, hrn, hmode, hoffset⟩ := (line_eq_iff_of_memory h h').mp hline
              exact .memory op h h' hrd hrn hmode hoffset

/-- A line shows nothing else. -/
lemma line_eq_of_shownAlike (halike : ShownAlike word word') :
    disassembleWith config word = disassembleWith config word' := by
  cases halike with
  | unknown h h' hopcode => exact (line_eq_iff_of_unknown h h').mpr hopcode
  | bare op hbare h h' =>
      rw [disassembleWith_of_register h, disassembleWith_of_register h',
        RegisterFields.text_of_bare hbare, RegisterFields.text_of_bare hbare]
  | register op hbare h h' hrd hrn hrm hamount htype =>
      exact (line_eq_iff_of_register h h' hbare).mpr ⟨hrd, hrn, hrm, hamount, htype⟩
  | call h h' himmediate => exact (line_eq_iff_of_call h h').mpr himmediate
  | immediate op hop h h' hrd hrn himmediate =>
      exact (line_eq_iff_of_immediate h h' hop).mpr ⟨hrd, hrn, himmediate⟩
  | branch op h h' hoffset => exact (line_eq_iff_of_branch h h').mpr hoffset
  | memory op h h' hrd hrn hmode hoffset =>
      exact (line_eq_iff_of_memory h h').mpr ⟨hrd, hrn, hmode, hoffset⟩

end Word

/-- **Disassembly loses what it does not show, and confuses nothing.**  Two words have the same line
exactly when they show the same operation and the same operands, under either configuration. -/
theorem disassembleWith_eq_iff (config : Config) (word word' : Word) :
    disassembleWith config word = disassembleWith config word' ↔ word.ShownAlike word' :=
  ⟨Word.shownAlike_of_line_eq, Word.line_eq_of_shownAlike⟩

/-- A rotation by zero is not shown. -/
example : disassemble (RegisterOp.packShifted .add 1 2 31 .ror 0) = "ADD_REG x1, x2, sp" := rfl

end WordCodec
