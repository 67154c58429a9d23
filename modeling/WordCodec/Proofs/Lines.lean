import WordCodec.Disassembly
import WordCodec.Proofs.Names
import WordCodec.Proofs.RoundTrip
import WordCodec.Proofs.SignExtension

/-!
# What a line says about its fields

Two lines with the same mnemonic are the same line exactly when the fields that the line shows are
equal.  There is one such statement for each format, `text_eq_text_iff`; each cancels the
punctuation, which is the same on both sides, and splits off one name after another.

* A register-format line without shift is the line of every shift by zero.
* Immediates and offsets are shown either as they are or as signed numbers; both determine the
  field, because its value is known to fit.
* The punctuation of an address depends on the mode, so that the mode, also an
  undefined one, can be told from it.
-/

namespace WordCodec

lemma endsName_comma (rest : String) : EndsName (", " ++ rest) :=
  EndsName.append (by decide) (by decide) rest

lemma endsName_space (rest : String) : EndsName (" " ++ rest) :=
  EndsName.append (by decide) (by decide) rest

lemma Register.name_append_inj {register other : Register} {x y : String} (hx : EndsName x)
    (hy : EndsName y) : register.name ++ x = other.name ++ y ↔ register = other ∧ x = y := by
  rw [append_eq_append_iff register.isName_name other.isName_name hx hy]
  exact and_congr_left fun _ => name_inj

namespace RegisterFields

variable {op : RegisterOp} {fields other : RegisterFields}

/-- How the shift is shown. -/
def shiftText (fields : RegisterFields) : String :=
  if fields.amount = 0 then ""
  else ", " ++ (fields.shift.mnemonic ++ (" #" ++ Numeral.decimal fields.amount.toNat))

lemma endsName_shiftText (fields : RegisterFields) : EndsName fields.shiftText := by
  rw [shiftText]
  split
  · exact endsName_empty
  · exact endsName_comma _

/-- HLT and NOP show their mnemonic only. -/
lemma text_of_bare (h : op = .hlt ∨ op = .nop) (fields : RegisterFields) :
    fields.text op = op.mnemonic := by
  rcases h with rfl | rfl <;> rfl

lemma text_of_not_bare (h : ¬(op = .hlt ∨ op = .nop)) (fields : RegisterFields) :
    fields.text op
      = op.mnemonic ++ (" " ++ (fields.rd.name ++ (", " ++ (fields.rn.name ++ (", "
          ++ (fields.rm.name ++ fields.shiftText)))))) := by
  rw [text, shiftText]
  · simp only [String.append_assoc]
    split <;> simp
  all_goals
    rintro rfl
    simp at h

lemma shiftText_eq_iff : fields.shiftText = other.shiftText
    ↔ fields.amount = other.amount ∧ (fields.amount ≠ 0 → fields.shift = other.shift) := by
  rw [shiftText, shiftText]
  by_cases h : fields.amount = 0 <;> by_cases h' : other.amount = 0
  · simp [h, h']
  · simp [h, Ne.symm h', h']
  · simp [h, h']
  · have hends : ∀ n, EndsName (" #" ++ Numeral.decimal n) := fun n =>
      EndsName.append (by decide) (by decide) _
    rw [if_neg h, if_neg h', String.append_right_inj,
      append_eq_append_iff (Shift.isName_mnemonic _) (Shift.isName_mnemonic _) (hends _) (hends _),
      String.append_right_inj, Numeral.decimal_inj, Shift.mnemonic_inj, UInt8.toNat_inj]
    simp [h, and_comm]

/-- A line with operands shows the registers, the amount and, if it is not zero, the shift. -/
lemma text_eq_text_iff (h : ¬(op = .hlt ∨ op = .nop)) :
    fields.text op = other.text op
      ↔ fields.rd = other.rd ∧ fields.rn = other.rn ∧ fields.rm = other.rm
        ∧ fields.amount = other.amount ∧ (fields.amount ≠ 0 → fields.shift = other.shift) := by
  rw [text_of_not_bare h, text_of_not_bare h, String.append_right_inj, String.append_right_inj,
    Register.name_append_inj (endsName_comma _) (endsName_comma _), String.append_right_inj,
    Register.name_append_inj (endsName_comma _) (endsName_comma _), String.append_right_inj,
    Register.name_append_inj (endsName_shiftText _) (endsName_shiftText _), shiftText_eq_iff]

end RegisterFields

namespace ImmediateFields

variable {op : ImmediateOp} {fields other : ImmediateFields} {signed : Bool}

/-- The numeral of the immediate. -/
def numeral (signed : Bool) (fields : ImmediateFields) : String :=
  if signed then Numeral.signedDecimal fields.signedImmediate.toInt
  else Numeral.hex fields.immediate.toNat

lemma isName_numeral (signed : Bool) (fields : ImmediateFields) :
    IsName (fields.numeral signed) := by
  rw [numeral]
  split
  · exact isName_signedDecimal _
  · exact isName_hex _

lemma numeral_inj (h : fields.immediate.toNat < 2 ^ Field.immediate.width)
    (h' : other.immediate.toNat < 2 ^ Field.immediate.width) :
    fields.numeral signed = other.numeral signed ↔ fields.immediate = other.immediate := by
  rw [numeral, numeral]
  cases signed with
  | true =>
      rw [if_pos rfl, if_pos rfl, Numeral.signedDecimal_inj, signedImmediate, signedImmediate,
        toInt_signExtend_inj h h']
  | false =>
      rw [if_neg Bool.false_ne_true, if_neg Bool.false_ne_true, Numeral.hex_inj, UInt64.toNat_inj]

lemma text_svc (signed : Bool) (fields : ImmediateFields) :
    fields.text signed .svc
      = ImmediateOp.svc.mnemonic ++ (" " ++ ("#" ++ fields.numeral signed)) := by
  cases signed <;> simp [text, numeral, String.append_assoc]

lemma text_of_ne_svc (h : op ≠ .svc) (signed : Bool) (fields : ImmediateFields) :
    fields.text signed op
      = op.mnemonic ++ (" " ++ (fields.rd.name ++ (", " ++ (fields.rn.name ++ (", "
          ++ ("#" ++ fields.numeral signed)))))) := by
  rw [text]
  · cases signed <;> simp [numeral, String.append_assoc]
  · exact h

/-- The line of SVC shows the immediate. -/
lemma text_svc_eq_iff (h : fields.immediate.toNat < 2 ^ Field.immediate.width)
    (h' : other.immediate.toNat < 2 ^ Field.immediate.width) :
    fields.text signed .svc = other.text signed .svc ↔ fields.immediate = other.immediate := by
  rw [text_svc, text_svc, String.append_right_inj, String.append_right_inj,
    String.append_right_inj, numeral_inj h h']

/-- Every other line shows the registers as well. -/
lemma text_eq_text_iff (hop : op ≠ .svc) (h : fields.immediate.toNat < 2 ^ Field.immediate.width)
    (h' : other.immediate.toNat < 2 ^ Field.immediate.width) :
    fields.text signed op = other.text signed op
      ↔ fields.rd = other.rd ∧ fields.rn = other.rn ∧ fields.immediate = other.immediate := by
  rw [text_of_ne_svc hop, text_of_ne_svc hop, String.append_right_inj, String.append_right_inj,
    Register.name_append_inj (endsName_comma _) (endsName_comma _), String.append_right_inj,
    Register.name_append_inj (endsName_comma _) (endsName_comma _), String.append_right_inj,
    String.append_right_inj, numeral_inj h h']

end ImmediateFields

namespace BranchFields

variable {op : BranchOp} {fields other : BranchFields}

lemma text_eq (op : BranchOp) (fields : BranchFields) :
    fields.text op
      = op.mnemonic ++ (" #" ++ Numeral.signedDecimal fields.signedOffset.toInt) := by
  rw [text, String.append_assoc]

lemma text_eq_text_iff (h : fields.offset.toNat < 2 ^ Field.branchOffset.width)
    (h' : other.offset.toNat < 2 ^ Field.branchOffset.width) :
    fields.text op = other.text op ↔ fields.offset = other.offset := by
  rw [text_eq, text_eq, String.append_right_inj, String.append_right_inj,
    Numeral.signedDecimal_inj, signedOffset, signedOffset,
    toInt_signExtend_inj h h']

end BranchFields

namespace MemoryFields

variable {op : MemoryOp} {fields other : MemoryFields}

/-- What closes an address that shows its offset within the brackets. -/
def closing (mode : UInt8) : String :=
  match MemoryMode.ofBits? mode with
  | some .offset => "]"
  | some .preIndex => "]!"
  | some mode => "] (" ++ (mode.name ++ ")")
  | none => "] (mode " ++ (Numeral.decimal mode.toNat ++ ")")

/-- What follows the base register. -/
def afterBase (fields : MemoryFields) : String :=
  if fields.mode = 2 then "], " ++ ("#" ++ Numeral.hex fields.offset.toNat)
  else if fields.mode = 0 ∧ fields.offset = 0 then "]"
  else ", " ++ ("#" ++ (Numeral.hex fields.offset.toNat ++ closing fields.mode))

lemma address_eq (fields : MemoryFields) :
    fields.address = "[" ++ (fields.rn.name ++ fields.afterBase) := by
  rw [address, afterBase, memoryMode?, closing]
  cases hmode : MemoryMode.ofBits? fields.mode with
  | none =>
      have hundefined : fields.mode ≠ 2 ∧ fields.mode ≠ 0 := by
        constructor <;> intro h <;> rw [h] at hmode <;> cases hmode
      simp [hundefined, String.append_assoc]
  | some mode =>
      have hbits : fields.mode = mode.bits := (MemoryMode.ofBits?_eq_some_iff.mp hmode).symm
      rw [hbits]
      cases mode with
      | offset =>
          by_cases hzero : fields.offset = 0 <;>
            simp [MemoryMode.bits, hzero, String.append_assoc]
      | _ => simp [MemoryMode.bits, String.append_assoc]

lemma endsName_closing (mode : UInt8) : EndsName (closing mode) := by
  rw [closing]
  split
  · decide
  · decide
  · exact EndsName.append (by decide) (by decide) _
  · exact EndsName.append (by decide) (by decide) _

lemma endsName_afterBase (fields : MemoryFields) : EndsName fields.afterBase := by
  rw [afterBase]
  split
  · exact EndsName.append (by decide) (by decide) _
  · split
    · decide
    · exact endsName_comma _

/-- The eight closings of a mode field differ; an address with the closing of mode 2 does not show
its offset within the brackets. -/
lemma closing_inj {mode mode' : UInt8} (h : mode.toNat < 2 ^ 3) (h' : mode'.toNat < 2 ^ 3) :
    closing mode = closing mode' ↔ mode = mode' := by
  have hall : ∀ n < 8, ∀ n' < 8, closing (UInt8.ofNat n) = closing (UInt8.ofNat n') → n = n' := by
    decide +kernel
  refine ⟨fun hclosing => UInt8.toNat_inj.mp (hall _ h _ h' ?_), congrArg closing⟩
  rwa [UInt8.ofNat_toNat, UInt8.ofNat_toNat]

/-- What follows the base register depends on the mode and the offset only. -/
lemma afterBase_congr (hmode : fields.mode = other.mode) (hoffset : fields.offset = other.offset) :
    fields.afterBase = other.afterBase := by
  rw [afterBase, afterBase, hmode, hoffset]

/-- An offset behind the brackets is not an offset within them, nor an offset left out. -/
lemma afterBase_ne_of_postIndex (h : fields.mode = 2) (h' : other.mode ≠ 2) :
    fields.afterBase ≠ other.afterBase := by
  rw [afterBase, afterBase, if_pos h, if_neg h']
  intro htext
  have hlist := congrArg String.toList htext
  split at hlist <;> simp at hlist

/-- **What follows the base register tells the mode and the offset.**  A bracket and a comma come
after the base alone, a bracket alone after the base with nothing added, and a comma otherwise. -/
lemma afterBase_inj (h : fields.mode.toNat < 2 ^ 3) (h' : other.mode.toNat < 2 ^ 3) :
    fields.afterBase = other.afterBase ↔ fields.mode = other.mode ∧ fields.offset = other.offset := by
  refine ⟨fun hafter => ?_, fun hboth => afterBase_congr hboth.1 hboth.2⟩
  by_cases hpost : fields.mode = 2
  · have hpost' : other.mode = 2 := by
      by_contra hother
      exact afterBase_ne_of_postIndex hpost hother hafter
    rw [afterBase, afterBase, if_pos hpost, if_pos hpost', String.append_right_inj,
      String.append_right_inj, Numeral.hex_inj, UInt64.toNat_inj] at hafter
    exact ⟨hpost.trans hpost'.symm, hafter⟩
  have hpost' : other.mode ≠ 2 := fun hother => afterBase_ne_of_postIndex hother hpost hafter.symm
  rw [afterBase, afterBase, if_neg hpost, if_neg hpost'] at hafter
  by_cases hplain : fields.mode = 0 ∧ fields.offset = 0 <;>
    by_cases hplain' : other.mode = 0 ∧ other.offset = 0
  · exact ⟨hplain.1.trans hplain'.1.symm, hplain.2.trans hplain'.2.symm⟩
  · rw [if_pos hplain, if_neg hplain'] at hafter
    have hlist := congrArg String.toList hafter
    simp at hlist
  · rw [if_neg hplain, if_pos hplain'] at hafter
    have hlist := congrArg String.toList hafter
    simp at hlist
  · rw [if_neg hplain, if_neg hplain', String.append_right_inj, String.append_right_inj,
      append_eq_append_iff (isName_hex _) (isName_hex _) (endsName_closing _) (endsName_closing _),
      Numeral.hex_inj, UInt64.toNat_inj, closing_inj h h'] at hafter
    exact ⟨hafter.2, hafter.1⟩

lemma text_eq (op : MemoryOp) (fields : MemoryFields) :
    fields.text op
      = op.mnemonic ++ (" " ++ (fields.rd.name ++ (", " ++ ("[" ++ (fields.rn.name
          ++ fields.afterBase))))) := by
  rw [text, address_eq]
  simp only [String.append_assoc]

/-- The line shows both registers, the mode and the offset. -/
lemma text_eq_text_iff (h : fields.mode.toNat < 2 ^ 3) (h' : other.mode.toNat < 2 ^ 3) :
    fields.text op = other.text op
      ↔ fields.rd = other.rd ∧ fields.rn = other.rn ∧ fields.mode = other.mode
        ∧ fields.offset = other.offset := by
  rw [text_eq, text_eq, String.append_right_inj, String.append_right_inj,
    Register.name_append_inj (endsName_comma _) (endsName_comma _), String.append_right_inj,
    String.append_right_inj,
    Register.name_append_inj (endsName_afterBase _) (endsName_afterBase _), afterBase_inj h h']

end MemoryFields

end WordCodec
