import WordCodec.Machine.MemoryMode
import WordCodec.Machine.Register
import WordCodec.Machine.Shift
import WordCodec.Proofs.Numerals
import WordCodec.Proofs.Opcodes

/-!
# Names in a line of text

A line of text is a row of names with punctuation between them.  Mnemonics, registers, shifts and
numerals are all names in this sense, `IsName`: letters, digits, underscores and the minus sign.
Everything else a line is made of ends the name before it, `EndsName`.

**Names are read off from the left.**  However one name continues another, as `BL` does `B` and
`x10` does `x1`, a text that begins with a name followed by something that ends it can be split
there in one way only (`append_eq_append_iff`).  Two lines are compared by splitting off one name
after another, and then the names themselves are compared: they are different for different
operations, registers, shifts and numbers.
-/

namespace WordCodec

/-! ## Splitting off a name -/

/-- A list begins with one run of characters of a kind. -/
lemma append_inj_of_forall {kind : Char → Bool} :
    ∀ {a b x y : List Char}, (∀ c ∈ a, kind c = true) → (∀ c ∈ b, kind c = true) →
      (∀ c ∈ x.head?, kind c = false) → (∀ c ∈ y.head?, kind c = false) →
      a ++ x = b ++ y → a = b ∧ x = y
  | [], [], _, _, _, _, _, _, h => ⟨rfl, h⟩
  | [], c :: b, x, y, _, hb, hx, _, h => by
      obtain rfl : x = c :: (b ++ y) := h
      have hin : kind c = true := hb c List.mem_cons_self
      rw [hx c rfl] at hin
      cases hin
  | c :: a, [], x, y, ha, _, _, hy, h => by
      obtain rfl : c :: (a ++ x) = y := h
      have hin : kind c = true := ha c List.mem_cons_self
      rw [hy c rfl] at hin
      cases hin
  | c :: a, d :: b, x, y, ha, hb, hx, hy, h => by
      obtain ⟨rfl, hrest⟩ := List.cons.inj h
      rw [List.forall_mem_cons] at ha hb
      obtain ⟨rfl, hxy⟩ := append_inj_of_forall ha.2 hb.2 hx hy hrest
      exact ⟨rfl, hxy⟩

/-- Whether a character may stand in a name. -/
def isNameChar (c : Char) : Bool := c.isAlphanum || c == '_' || c == '-'

/-- Whether a text may be part of a name. -/
def IsName (text : String) : Prop := ∀ c ∈ text.toList, isNameChar c = true

instance (text : String) : Decidable (IsName text) :=
  decidable_of_iff (text.toList.all isNameChar = true) List.all_eq_true

/-- Whether a name that stands before the text ends there. -/
def EndsName (text : String) : Prop := ∀ c ∈ text.toList.head?, isNameChar c = false

/-- **A name and what ends it** are known from the two together. -/
lemma append_eq_append_iff {a b x y : String} (ha : IsName a) (hb : IsName b) (hx : EndsName x)
    (hy : EndsName y) : a ++ x = b ++ y ↔ a = b ∧ x = y := by
  constructor
  · intro h
    have hlist : a.toList ++ x.toList = b.toList ++ y.toList := by
      rw [← String.toList_append, h, String.toList_append]
    obtain ⟨hname, hrest⟩ := append_inj_of_forall ha hb hx hy hlist
    exact ⟨String.toList_inj.mp hname, String.toList_inj.mp hrest⟩
  · rintro ⟨rfl, rfl⟩
    rfl

instance (text : String) : Decidable (EndsName text) :=
  Option.decidableForallMem text.toList.head?

lemma endsName_empty : EndsName "" := by
  intro c hc
  simp at hc

/-- What begins with punctuation ends a name. -/
lemma EndsName.append {mark : String} (hmark : EndsName mark) (hne : mark ≠ "") (rest : String) :
    EndsName (mark ++ rest) := by
  intro c hc
  refine hmark c ?_
  cases hlist : mark.toList with
  | nil => exact absurd (String.toList_eq_nil_iff.mp hlist) hne
  | cons d mark => simpa [hlist] using hc

/-! ## Names -/

lemma IsName.append {a b : String} (ha : IsName a) (hb : IsName b) : IsName (a ++ b) := by
  intro c hc
  rw [String.toList_append, List.mem_append] at hc
  rcases hc with hc | hc
  · exact ha c hc
  · exact hb c hc

/-- Punctuation does not stand in a name. -/
lemma IsName.notMem {text : String} (h : IsName text) {c : Char} (hc : isNameChar c = false) :
    c ∉ text.toList := by
  intro hmem
  rw [h c hmem] at hc
  cases hc

/-- Digits to a base up to sixteen are a name. -/
lemma isName_digits {base : ℕ} (hbase : 1 < base) (hsixteen : base ≤ 16) (n : ℕ) :
    IsName (String.ofList (Nat.toDigits base n)) := by
  have hall : ∀ d < 16, isNameChar (Nat.digitChar d) = true := by decide
  intro c hc
  rw [String.toList_ofList] at hc
  obtain ⟨d, hd, rfl⟩ := Numeral.exists_digitChar_of_mem_toDigits hbase hc
  exact hall d (by omega)

lemma isName_decimal (n : ℕ) : IsName (Numeral.decimal n) :=
  isName_digits (by decide) (by decide) n

lemma isName_hex (n : ℕ) : IsName (Numeral.hex n) :=
  IsName.append (by decide) (isName_digits (by decide) (by decide) n)

/-- A number is a name even with its minus sign. -/
lemma isName_signedDecimal : ∀ i : ℤ, IsName (Numeral.signedDecimal i)
  | .ofNat n => isName_decimal n
  | .negSucc n => IsName.append (by decide) (isName_decimal (n + 1))

lemma isName_opcodeText (opcode : UInt16) : IsName (opcodeText opcode) := by
  rw [opcodeText, Numeral.paddedHex, String.ofList_append]
  refine IsName.append (by decide) (IsName.append ?_ ?_)
  · intro c hc
    rw [String.toList_ofList] at hc
    rw [List.eq_of_mem_replicate hc]
    decide
  · exact isName_digits (by decide) (by decide) _

namespace Operation

/-- Mnemonics are names, so a line does not blur where its mnemonic ends. -/
lemma isName_mnemonic (op : Operation) : IsName op.mnemonic := by
  have hall : ∀ op ∈ all, IsName op.mnemonic := by decide +kernel
  exact hall op (mem_all op)

lemma mnemonic_ne_empty (op : Operation) : op.mnemonic ≠ "" := by
  have hall : ∀ op ∈ all, op.mnemonic ≠ "" := by decide +kernel
  exact hall op (mem_all op)

/-- **No two operations share a mnemonic**, not even operations of different formats. -/
lemma mnemonic_inj {op op' : Operation} : op.mnemonic = op'.mnemonic ↔ op = op' := by
  have hnodup : (all.map mnemonic).Nodup := by decide +kernel
  exact ⟨List.inj_on_of_nodup_map hnodup (mem_all op) (mem_all op'), congrArg mnemonic⟩

end Operation

namespace Register

lemma isName_name (register : Register) : IsName register.name := by
  rw [name]
  split
  · decide
  · exact IsName.append (by decide) (isName_decimal _)

/-- Different registers have different names. -/
lemma name_inj {register other : Register} : register.name = other.name ↔ register = other := by
  have hall : ∀ i j : Fin 32, (Register.mk i).name = (Register.mk j).name → i = j := by
    decide +kernel
  refine ⟨fun h => ?_, congrArg name⟩
  obtain ⟨i⟩ := register
  obtain ⟨j⟩ := other
  rw [hall i j h]

end Register

lemma Shift.isName_mnemonic (shift : Shift) : IsName shift.mnemonic := by
  cases shift <;> decide

/-- Different shifts have different mnemonics. -/
lemma Shift.mnemonic_inj {shift other : Shift} :
    shift.mnemonic = other.mnemonic ↔ shift = other := by
  cases shift <;> cases other <;> decide

end WordCodec
