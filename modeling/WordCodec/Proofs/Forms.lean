import WordCodec.Forms
import WordCodec.Proofs.Json.Outlines

/-!
# Reading payloads, operands and instructions

The types that stand for words and instructions are written as records, and all but the records
themselves behind the letter of a format.  Each has an **outline**: the letter and the fields of a
value.  `forms_follow_outlines` says that this is all there is to a text.  The order of the fields,
blanks, escapes, other keys and the choice between object and list do not matter; leaving out a
field or repeating it does.
-/

namespace WordCodec

open Json

/-! ## Names

Each of these types is a choice between names.  What has to be seen is that the names are all
different, that every value has one, and that none of them needs escapes.  The values are few enough
to look at all of them. -/

lemma Register.shows : Register.form.Shows (fun x => .name x.label) := by
  refine shows_enumeration (by decide +kernel) ?_ (by decide +kernel)
  intro x
  exact List.mem_map_of_mem (List.mem_finRange x.index)

lemma Shift.shows : Shift.form.Shows (fun x => .name x.label) :=
  shows_enumeration (by decide +kernel) (by rintro (_ | _ | _ | _) <;> decide) (by decide +kernel)

lemma MemoryMode.shows : MemoryMode.form.Shows (fun x => .name x.label) :=
  shows_enumeration (by decide +kernel) (by intro x; cases x <;> decide) (by decide +kernel)

lemma RegisterOp.shows : RegisterOp.form.Shows (fun x => .name x.label) :=
  shows_enumeration (by decide +kernel) (by intro x; cases x <;> decide) (by decide +kernel)

lemma ImmediateOp.shows : ImmediateOp.form.Shows (fun x => .name x.label) :=
  shows_enumeration (by decide +kernel) (by intro x; cases x <;> decide) (by decide +kernel)

lemma BranchOp.shows : BranchOp.form.Shows (fun x => .name x.label) :=
  shows_enumeration (by decide +kernel) (by intro x; cases x <;> decide) (by decide +kernel)

lemma MemoryOp.shows : MemoryOp.form.Shows (fun x => .name x.label) :=
  shows_enumeration (by decide +kernel) (by intro x; cases x <;> decide) (by decide +kernel)

/-! ## Outlines

The letter of a value and the fields of its record, in the order in which they are printed.  They
are written down here a second time and do not mention the records they are to agree with. -/

/-- What a text has to say of the fields of a register-format word. -/
def RegisterFields.outline (f : RegisterFields) : Outline where
  letter := none
  fields :=
    [("opcode", .number f.opcode.toNat), ("rd", .name f.rd.label), ("rn", .name f.rn.label),
      ("rm", .name f.rm.label), ("shift_type", .name f.shift.label),
      ("shift_amount", .number f.amount.toNat)]

/-- What a text has to say of the fields of an immediate-format word. -/
def ImmediateFields.outline (f : ImmediateFields) : Outline where
  letter := none
  fields :=
    [("opcode", .number f.opcode.toNat), ("rd", .name f.rd.label), ("rn", .name f.rn.label),
      ("immediate", .number f.immediate.toNat)]

/-- What a text has to say of the fields of a branch-format word. -/
def BranchFields.outline (f : BranchFields) : Outline where
  letter := none
  fields := [("opcode", .number f.opcode.toNat), ("offset", .number f.offset.toNat)]

/-- What a text has to say of the fields of a memory-format word. -/
def MemoryFields.outline (f : MemoryFields) : Outline where
  letter := none
  fields :=
    [("opcode", .number f.opcode.toNat), ("rd", .name f.rd.label), ("rn", .name f.rn.label),
      ("mode", .number f.mode.toNat), ("offset", .number f.offset.toNat)]

/-- The letter of a payload and its fields. -/
def Payload.outline : Payload → Outline
  | .register f => ⟨some "R", f.outline.fields⟩
  | .immediate f => ⟨some "I", f.outline.fields⟩
  | .branch f => ⟨some "B", f.outline.fields⟩
  | .memory f => ⟨some "M", f.outline.fields⟩

/-- The letter of the operands' format and the operands, all of them numbers. -/
def Operands.outline : Operands → Outline
  | .register rd rn rm =>
    ⟨some "R", [("rd", .number rd.toNat), ("rn", .number rn.toNat), ("rm", .number rm.toNat)]⟩
  | .immediate rd rn value =>
    ⟨some "I", [("rd", .number rd.toNat), ("rn", .number rn.toNat), ("imm", .number value.toNat)]⟩
  | .branch offset => ⟨some "B", [("offset", .number offset.toNat)]⟩
  | .memory rd rn offset =>
    ⟨some "M",
      [("rd", .number rd.toNat), ("rn", .number rn.toNat), ("offset", .number offset.toNat)]⟩

/-- The letter of an instruction and its parts, of which those with few values have names. -/
def Instruction.outline : Instruction → Outline
  | .register op rd rn rm shift amount =>
    ⟨some "R", [("op", .name op.label), ("rd", .name rd.label), ("rn", .name rn.label),
      ("rm", .name rm.label), ("shift", .name shift.label), ("amount", .number amount.toNat)]⟩
  | .immediate op rd rn value =>
    ⟨some "I", [("op", .name op.label), ("rd", .name rd.label), ("rn", .name rn.label),
      ("imm", .number value.toNat)]⟩
  | .branch op offset => ⟨some "B", [("op", .name op.label), ("offset", .number offset.toNat)]⟩
  | .memory op rd rn mode offset =>
    ⟨some "M", [("op", .name op.label), ("rd", .name rd.label), ("rn", .name rn.label),
      ("mode", .name mode.label), ("offset", .number offset.toNat)]⟩

/-! ## Records

A record lists the fields of an outline: member by member its key and what its form shows.  No two
members have the same key, none has a default, and other keys are skipped.  There is one lemma for
each record, with the values of the record as they are nested in pairs. -/

lemma RegisterFields.lists (f : RegisterFields) :
    RegisterFields.record.Lists (f.opcode, f.rd, f.rn, f.rm, f.shift, f.amount, ())
      f.outline.fields where
  shows := .cons shows_word16 (by decide) <| .cons Register.shows (by decide) <|
    .cons Register.shows (by decide) <| .cons Register.shows (by decide) <|
    .cons Shift.shows (by decide) <| .cons shows_word8 (by decide) .nil
  keys := by decide
  isOpen := rfl
  required := ⟨rfl, rfl, rfl, rfl, rfl, rfl, trivial⟩

lemma ImmediateFields.lists (f : ImmediateFields) :
    ImmediateFields.record.Lists (f.opcode, f.rd, f.rn, f.immediate, ()) f.outline.fields where
  shows := .cons shows_word16 (by decide) <| .cons Register.shows (by decide) <|
    .cons Register.shows (by decide) <| .cons shows_word64 (by decide) .nil
  keys := by decide
  isOpen := rfl
  required := ⟨rfl, rfl, rfl, rfl, trivial⟩

lemma BranchFields.lists (f : BranchFields) :
    BranchFields.record.Lists (f.opcode, f.offset, ()) f.outline.fields where
  shows := .cons shows_word16 (by decide) <| .cons shows_word64 (by decide) .nil
  keys := by decide
  isOpen := rfl
  required := ⟨rfl, rfl, trivial⟩

lemma MemoryFields.lists (f : MemoryFields) :
    MemoryFields.record.Lists (f.opcode, f.rd, f.rn, f.mode, f.offset, ()) f.outline.fields where
  shows := .cons shows_word16 (by decide) <| .cons Register.shows (by decide) <|
    .cons Register.shows (by decide) <| .cons shows_word8 (by decide) <|
    .cons shows_word64 (by decide) .nil
  keys := by decide
  isOpen := rfl
  required := ⟨rfl, rfl, rfl, rfl, rfl, trivial⟩

lemma Operands.lists_register (rd rn rm : UInt64) :
    Operands.registerRecord.Lists (rd, rn, rm, ()) (outline (.register rd rn rm)).fields where
  shows := .cons shows_word64 (by decide) <| .cons shows_word64 (by decide) <|
    .cons shows_word64 (by decide) .nil
  keys := by decide
  isOpen := rfl
  required := ⟨rfl, rfl, rfl, trivial⟩

lemma Operands.lists_immediate (rd rn value : UInt64) :
    Operands.immediateRecord.Lists (rd, rn, value, ())
      (outline (.immediate rd rn value)).fields where
  shows := .cons shows_word64 (by decide) <| .cons shows_word64 (by decide) <|
    .cons shows_word64 (by decide) .nil
  keys := by decide
  isOpen := rfl
  required := ⟨rfl, rfl, rfl, trivial⟩

lemma Operands.lists_branch (offset : UInt64) :
    Operands.branchRecord.Lists (offset, ()) (outline (.branch offset)).fields where
  shows := .cons shows_word64 (by decide) .nil
  keys := by decide
  isOpen := rfl
  required := ⟨rfl, trivial⟩

lemma Operands.lists_memory (rd rn offset : UInt64) :
    Operands.memoryRecord.Lists (rd, rn, offset, ()) (outline (.memory rd rn offset)).fields where
  shows := .cons shows_word64 (by decide) <| .cons shows_word64 (by decide) <|
    .cons shows_word64 (by decide) .nil
  keys := by decide
  isOpen := rfl
  required := ⟨rfl, rfl, rfl, trivial⟩

lemma Instruction.lists_register (op : RegisterOp) (rd rn rm : Register) (shift : Shift)
    (amount : UInt8) :
    Instruction.registerRecord.Lists (op, rd, rn, rm, shift, amount, ())
      (outline (.register op rd rn rm shift amount)).fields where
  shows := .cons RegisterOp.shows (by decide) <| .cons Register.shows (by decide) <|
    .cons Register.shows (by decide) <| .cons Register.shows (by decide) <|
    .cons Shift.shows (by decide) <| .cons shows_word8 (by decide) .nil
  keys := by decide
  isOpen := rfl
  required := ⟨rfl, rfl, rfl, rfl, rfl, rfl, trivial⟩

lemma Instruction.lists_immediate (op : ImmediateOp) (rd rn : Register) (value : UInt64) :
    Instruction.immediateRecord.Lists (op, rd, rn, value, ())
      (outline (.immediate op rd rn value)).fields where
  shows := .cons ImmediateOp.shows (by decide) <| .cons Register.shows (by decide) <|
    .cons Register.shows (by decide) <| .cons shows_word64 (by decide) .nil
  keys := by decide
  isOpen := rfl
  required := ⟨rfl, rfl, rfl, rfl, trivial⟩

lemma Instruction.lists_branch (op : BranchOp) (offset : UInt64) :
    Instruction.branchRecord.Lists (op, offset, ()) (outline (.branch op offset)).fields where
  shows := .cons BranchOp.shows (by decide) <| .cons shows_word64 (by decide) .nil
  keys := by decide
  isOpen := rfl
  required := ⟨rfl, rfl, trivial⟩

lemma Instruction.lists_memory (op : MemoryOp) (rd rn : Register) (mode : MemoryMode)
    (offset : UInt64) :
    Instruction.memoryRecord.Lists (op, rd, rn, mode, offset, ())
      (outline (.memory op rd rn mode offset)).fields where
  shows := .cons MemoryOp.shows (by decide) <| .cons Register.shows (by decide) <|
    .cons Register.shows (by decide) <| .cons MemoryMode.shows (by decide) <|
    .cons shows_word64 (by decide) .nil
  keys := by decide
  isOpen := rfl
  required := ⟨rfl, rfl, rfl, rfl, rfl, trivial⟩

/-! ## Forms

Records that stand alone are read as themselves; the others stand behind a letter, and their forms
are choices between four of them. -/

lemma RegisterFields.outlined (f : RegisterFields) : RegisterFields.form.Outlined f f.outline :=
  f.lists.outlined.via rfl rfl

lemma ImmediateFields.outlined (f : ImmediateFields) : ImmediateFields.form.Outlined f f.outline :=
  f.lists.outlined.via rfl rfl

lemma BranchFields.outlined (f : BranchFields) : BranchFields.form.Outlined f f.outline :=
  f.lists.outlined.via rfl rfl

lemma MemoryFields.outlined (f : MemoryFields) : MemoryFields.form.Outlined f f.outline :=
  f.lists.outlined.via rfl rfl

/-- **A payload** is its fields behind the letter of its format. -/
lemma Payload.outlined (payload : Payload) : Payload.form.Outlined payload payload.outline := by
  cases payload with
  | register f => exact f.outlined.behind rfl rfl rfl rfl (by decide)
  | immediate f => exact f.outlined.behind rfl rfl rfl rfl (by decide)
  | branch f => exact f.outlined.behind rfl rfl rfl rfl (by decide)
  | memory f => exact f.outlined.behind rfl rfl rfl rfl (by decide)

/-- **Operands** are numbers behind the letter of a format. -/
lemma Operands.outlined (operands : Operands) :
    Operands.form.Outlined operands operands.outline := by
  cases operands with
  | register rd rn rm => exact (lists_register rd rn rm).outlined.behind rfl rfl rfl rfl (by decide)
  | immediate rd rn value =>
      exact (lists_immediate rd rn value).outlined.behind rfl rfl rfl rfl (by decide)
  | branch offset => exact (lists_branch offset).outlined.behind rfl rfl rfl rfl (by decide)
  | memory rd rn offset =>
      exact (lists_memory rd rn offset).outlined.behind rfl rfl rfl rfl (by decide)

/-- **An instruction** is its parts behind the letter of its format. -/
lemma Instruction.outlined (instruction : Instruction) :
    Instruction.form.Outlined instruction instruction.outline := by
  cases instruction with
  | register op rd rn rm shift amount =>
      exact (lists_register op rd rn rm shift amount).outlined.behind rfl rfl rfl rfl (by decide)
  | immediate op rd rn value =>
      exact (lists_immediate op rd rn value).outlined.behind rfl rfl rfl rfl (by decide)
  | branch op offset => exact (lists_branch op offset).outlined.behind rfl rfl rfl rfl (by decide)
  | memory op rd rn mode offset =>
      exact (lists_memory op rd rn mode offset).outlined.behind rfl rfl rfl rfl (by decide)

/-- **All that counts in a text.**  The forms of payloads, operands and instructions follow their
outlines. -/
theorem forms_follow_outlines :
    RegisterFields.form.Follows RegisterFields.outline
      ∧ ImmediateFields.form.Follows ImmediateFields.outline
      ∧ BranchFields.form.Follows BranchFields.outline
      ∧ MemoryFields.form.Follows MemoryFields.outline
      ∧ Operands.form.Follows Operands.outline
      ∧ Payload.form.Follows Payload.outline
      ∧ Instruction.form.Follows Instruction.outline :=
  ⟨Form.follows_of_outlined RegisterFields.outlined,
    Form.follows_of_outlined ImmediateFields.outlined,
    Form.follows_of_outlined BranchFields.outlined, Form.follows_of_outlined MemoryFields.outlined,
    Form.follows_of_outlined Operands.outlined, Form.follows_of_outlined Payload.outlined,
    Form.follows_of_outlined Instruction.outlined⟩

/-- A digit stands for itself. -/
lemma written_digit {n : ℕ} (h : n < 10) : (Scalar.number n).Written [Nat.digitChar n] := by
  rw [← Nat.toDigits_of_lt_base h]
  exact .number n

/-- The fields of a branch in the other order, behind a key that nobody knows. -/
lemma recordWritten_branch :
    RecordWritten (Payload.outline (.branch ⟨3, 5⟩)).fields
      "\x7b\"x\":[\x7b\x7d],\"offset\":5,\"opcode\":3\x7d".toList := by
  have hunknown : IsValue ['[', '{', '}', ']'] := by
    have hlist : ListWritten [['{', '}']] ['[', '{', '}', ']'] :=
      Enclosed.filled (.one (Padded.refl ['{', '}']))
    have hobject : ObjectWritten AnyKey [] ['{', '}'] := Enclosed.empty blank_nil
    refine .list hlist ?_
    intro v hv
    obtain rfl := List.mem_singleton.mp hv
    exact .object hobject (by simp)
  have hx : Verbatim "x" := by decide
  have hoffset : Verbatim "offset" := by decide
  have hopcode : Verbatim "opcode" := by decide
  have hobject : ObjectWritten TextKey
      [("x", ['[', '{', '}', ']']), ("offset", ['5']), ("opcode", ['3'])] _ :=
    enclosed_intercalate (.cons (hx.entryWritten _)
      (.cons (hoffset.entryWritten _) (.cons (hopcode.entryWritten _) .nil))) '{' '}'
  have hown : List.Forall₂ Entered [("opcode", .number 3), ("offset", .number 5)]
      [("opcode", ['3']), ("offset", ['5'])] :=
    .cons ⟨rfl, written_digit (by decide)⟩ (.cons ⟨rfl, written_digit (by decide)⟩ .nil)
  have hextra : ∀ entry ∈ [("x", ['[', '{', '}', ']'])],
      entry.1 ∉ ["opcode", "offset"] ∧ IsValue entry.2 := by
    intro entry hentry
    obtain rfl := List.mem_singleton.mp hentry
    exact ⟨by decide, hunknown⟩
  exact .object hown hextra (by decide) hobject

/-- A branch with two offsets. -/
lemma recordMiscounted_branch :
    RecordMiscounted (Payload.outline (.branch ⟨3, 5⟩)).fields
      "\x7b\"offset\":5,\"offset\":6,\"opcode\":3\x7d".toList := by
  have hoffset : Verbatim "offset" := by decide
  have hopcode : Verbatim "opcode" := by decide
  have hobject : ObjectWritten TextKey
      [("offset", ['5']), ("offset", ['6']), ("opcode", ['3'])] _ :=
    enclosed_intercalate (.cons (hoffset.entryWritten _)
      (.cons (hoffset.entryWritten _) (.cons (hopcode.entryWritten _) .nil))) '{' '}'
  have hvalues : ∀ entry ∈ [("offset", ['5']), ("offset", ['6']), ("opcode", ['3'])],
      IsValue entry.2 := by
    simp only [List.forall_mem_cons, List.not_mem_nil, false_imp_iff, implies_true, and_true]
    exact ⟨(written_digit (n := 5) (by decide)).isValue, (written_digit (n := 6) (by decide)).isValue,
      (written_digit (n := 3) (by decide)).isValue⟩
  have hkey : "offset" ∈ ["opcode", "offset"] := by decide
  exact .object hvalues hkey (by decide) hobject

/-- Both behind their letter, with a blank in front of it and a line feed at the end. -/
theorem forms_follow_outlines_for_branches :
    Payload.form.parse "\x7b \"B\":\x7b\"x\":[\x7b\x7d],\"offset\":5,\"opcode\":3\x7d\x7d\n"
        = .ok (.branch ⟨3, 5⟩)
      ∧ ∃ e, Payload.form.parse "\x7b \"B\":\x7b\"offset\":5,\"offset\":6,\"opcode\":3\x7d\x7d\n"
        = .error e := by
  obtain ⟨-, -, -, -, -, hpayload, -⟩ := forms_follow_outlines
  have hB : Verbatim "B" := by decide
  have hblank : Blank [' '] := by simp [Blank]
  have hline : Blank ['\n'] := by simp [Blank]
  have hletter : ∀ content, ObjectWritten TextKey [("B", content)]
      ('{' :: (' ' :: '"' :: ("B".toList ++ '"' :: ':' :: content) ++ ['}'])) := by
    intro content
    have hentry := EntryWritten.entry hblank hB.textKey blank_nil (.refl content)
    exact Enclosed.filled (.one hentry)
  have hpadded : ∀ s, Padded s (s ++ ['\n']) := by
    intro s
    exact Padded.blanks blank_nil hline
  constructor
  · exact hpayload.reads (.branch ⟨3, 5⟩) _
      ⟨_, ⟨_, recordWritten_branch, hletter _⟩, hpadded _⟩
  · exact hpayload.rejects (.branch ⟨3, 5⟩) _
      ⟨_, ⟨_, recordMiscounted_branch, hletter _⟩, hpadded _⟩

end WordCodec
