import WordCodec.Word
import WordCodec.Proofs.Packing

/-!
# Words put together from fields

A word of a format is the union of its fields, each in its place.  `assemble` says so once for all
formats: it takes a list of fields and a value for each, and packs each value into the range of its
field (`assemble_eq_pack`).  The builders of words turn out to be instances of it, and decoding reads
the values back.

* `fields_apart` — the fields of one format lie apart.  This is the only fact about positions and
  widths that the rest needs, and it is decided format by format.
* `get_assemble` — each field of the list holds the low bits of its value.
* `assemble_get` — putting a word's own values together gives the word without its stray bits.
* `and_mask_eq_and_mask_iff` — two words agree on the bits of a format exactly when they agree on
  its fields.
* `and_mask_eq_get` — a field that ends at the bottom of the word may be read with its mask alone,
  as the readers of immediates and offsets do.

**The bits of a format** are written down a second time, as ranges of positions, in
`Format.definedBits`; `mask_eq_definedBits` says that the fields of a format cover just those.  What
a range of positions means as a word is `bitAt_span`.
-/

namespace WordCodec

namespace Field

lemma shift_lt (field : Field) : field.shift < wordBits := by
  cases field <;> decide

lemma shift_add_width_le (field : Field) : field.shift + field.width ≤ wordBits := by
  cases field <;> decide

/-- Whether two fields have no bit in common. -/
def Apart (field other : Field) : Prop :=
  field.shift + field.width ≤ other.shift ∨ other.shift + other.width ≤ field.shift

instance : DecidableRel Apart := fun _ _ => inferInstanceAs (Decidable (_ ∨ _))

/-! ## One field -/

/-- A value in the range of a field. -/
def placement (field : Field) (value : UInt64) : Placement :=
  ⟨value, field.shift, field.width, field.shift_lt, field.shift_add_width_le⟩

lemma Apart.disjoint {field other : Field} (h : field.Apart other) (value value' : UInt64) :
    (field.placement value).Disjoint (other.placement value') := by
  rintro i ⟨hlow, hhigh⟩ ⟨hlow', hhigh'⟩
  simp only [placement] at hlow hhigh hlow' hhigh'
  rcases h with h | h <;> omega

lemma put_zero (field : Field) : field.put 0 = 0 := by
  rw [put, place, truncate_zero, UInt64.zero_shiftLeft]

lemma put_get (field : Field) (word : Word) : field.put (field.get word) = word &&& field.put (-1) :=
  place_extract word field.shift_lt

lemma put_truncate (field : Field) (value : UInt64) :
    field.put (truncate value field.width) = field.put value :=
  place_truncate value field.shift field.width

/-- A field tells no difference between values that agree on its width. -/
lemma put_congr {field : Field} {value value' : UInt64}
    (h : truncate value field.width = truncate value' field.width) :
    field.put value = field.put value' := by
  rw [← put_truncate, h, put_truncate]

lemma truncate_get (field : Field) (word : Word) :
    truncate (field.get word) field.width = field.get word :=
  truncate_extract word field.shift field.width

/-- A field's value is below two to the power of its width. -/
lemma toNat_get_lt (field : Field) (word : Word) : (field.get word).toNat < 2 ^ field.width := by
  rw [← truncate_get, toNat_truncate]
  exact Nat.mod_lt _ (Nat.two_pow_pos _)

/-- **A field at the bottom of the word** is what its mask keeps. -/
lemma and_mask_eq_get {field : Field} (hshift : field.shift = 0) (word : Word) :
    word &&& field.mask = field.get word := by
  have hstay : UInt64.ofNat 0 = 0 := rfl
  rw [get, extract, hshift, hstay, UInt64.shiftRight_zero, mask_eq_lowMask]

end Field

namespace Word

lemma immediate_eq_get (word : Word) : immediate word = Field.immediate.get word := by
  rw [immediate, Field.and_mask_eq_get rfl]

lemma branchOffset_eq_get (word : Word) : branchOffset word = Field.branchOffset.get word := by
  rw [branchOffset, Field.and_mask_eq_get rfl]

lemma memoryOffset_eq_get (word : Word) : memoryOffset word = Field.memoryOffset.get word := by
  rw [memoryOffset, Field.and_mask_eq_get rfl]

lemma toNat_immediate_lt (word : Word) : (immediate word).toNat < 2 ^ Field.immediate.width := by
  rw [immediate_eq_get]
  exact Field.immediate.toNat_get_lt word

lemma toNat_branchOffset_lt (word : Word) :
    (branchOffset word).toNat < 2 ^ Field.branchOffset.width := by
  rw [branchOffset_eq_get]
  exact Field.branchOffset.toNat_get_lt word

/-- The region below the mode, like a field read by position and width. -/
lemma extended_eq_extract (word : Word) :
    extended word = extract word extendedShift extendedWidth := by
  have hstay : UInt64.ofNat 0 = 0 := rfl
  rw [extended, extendedMask_eq_lowMask, extract, extendedShift, hstay, UInt64.shiftRight_zero]

end Word

/-! ## Several fields -/

/-- The word in which each of the `fields` holds its value, and whose other bits are clear. -/
def assemble (fields : List Field) (values : Field → UInt64) : Word :=
  fields.foldr (fun field bits => field.put (values field) ||| bits) 0

@[simp] lemma assemble_nil (values : Field → UInt64) : assemble [] values = 0 := rfl

@[simp] lemma assemble_cons (field : Field) (fields : List Field) (values : Field → UInt64) :
    assemble (field :: fields) values = field.put (values field) ||| assemble fields values := rfl

lemma assemble_eq_pack (fields : List Field) (values : Field → UInt64) :
    assemble fields values = pack (fields.map fun field => field.placement (values field)) := by
  rw [pack, List.foldr_map]
  rfl

lemma disjoint_placements {fields : List Field} (hapart : fields.Pairwise Field.Apart)
    (values : Field → UInt64) :
    (fields.map fun field => field.placement (values field)).Pairwise Placement.Disjoint := by
  rw [List.pairwise_map]
  exact hapart.imp fun h => h.disjoint _ _

/-- **Each field holds its value**, cut down to the width of the field. -/
lemma get_assemble {fields : List Field} (hapart : fields.Pairwise Field.Apart) {field : Field}
    (hfield : field ∈ fields) (values : Field → UInt64) :
    field.get (assemble fields values) = truncate (values field) field.width := by
  have hmem : field.placement (values field)
      ∈ fields.map fun field => field.placement (values field) :=
    List.mem_map.mpr ⟨field, hfield, rfl⟩
  have hread := extract_pack (disjoint_placements hapart values) hmem
  rw [← assemble_eq_pack] at hread
  exact hread

/-- A word depends on no more of the values than the fields hold. -/
lemma assemble_congr {fields : List Field} {values values' : Field → UInt64}
    (h : ∀ field ∈ fields,
      truncate (values field) field.width = truncate (values' field) field.width) :
    assemble fields values = assemble fields values' := by
  induction fields with
  | nil => rfl
  | cons field fields ih =>
      rw [List.forall_mem_cons] at h
      rw [assemble_cons, assemble_cons, ih h.2, Field.put_congr h.1]

/-- Leaving a field out is giving it nothing. -/
lemma assemble_filter (fields : List Field) (keep : Field → Bool) (values : Field → UInt64) :
    assemble (fields.filter keep) values
      = assemble fields fun field => if keep field then values field else 0 := by
  induction fields with
  | nil => rfl
  | cons field fields ih =>
      by_cases hkeep : keep field = true
      · rw [List.filter_cons_of_pos hkeep, assemble_cons, assemble_cons, ih, if_pos hkeep]
      · rw [List.filter_cons_of_neg hkeep, assemble_cons, ih, if_neg hkeep, Field.put_zero,
          UInt64.zero_or]

lemma assemble_eq_assemble_iff {fields : List Field} (hapart : fields.Pairwise Field.Apart)
    {values values' : Field → UInt64} :
    assemble fields values = assemble fields values' ↔ ∀ field ∈ fields,
      truncate (values field) field.width = truncate (values' field) field.width := by
  constructor
  · intro h field hfield
    rw [← get_assemble hapart hfield, h, get_assemble hapart hfield]
  · exact assemble_congr

/-- **A word's own values put it together again**, without the bits outside the fields. -/
lemma assemble_get (fields : List Field) (word : Word) :
    assemble fields (fun field => field.get word) = word &&& assemble fields fun _ => -1 := by
  induction fields with
  | nil => rw [assemble_nil, assemble_nil, UInt64.and_zero]
  | cons field fields ih =>
      refine eq_of_bitAt_eq fun i => ?_
      rw [assemble_cons, assemble_cons, ih, Field.put_get]
      simp only [bitAt_or, bitAt_and, Bool.and_or_distrib_left]

namespace Format

/-! ## The fields of a format -/

/-- **Within a format no two fields share a bit**, although fields of different formats do. -/
lemma fields_apart (format : Format) : format.fields.Pairwise Field.Apart := by
  cases format <;> decide

lemma opcode_mem_fields (format : Format) : Field.opcode ∈ format.fields := by
  cases format <;> decide

lemma mask_eq_assemble (format : Format) : format.mask = assemble format.fields fun _ => -1 := rfl

/-- Clearing stray bits changes no field of the format. -/
lemma get_and_mask {format : Format} {field : Field} (hfield : field ∈ format.fields)
    (word : Word) : field.get (word &&& format.mask) = field.get word := by
  rw [mask_eq_assemble, ← assemble_get, get_assemble format.fields_apart hfield,
    Field.truncate_get]

/-- **Agreeing on the bits of a format is agreeing on its fields.** -/
lemma and_mask_eq_and_mask_iff (format : Format) (word word' : Word) :
    word &&& format.mask = word' &&& format.mask
      ↔ ∀ field ∈ format.fields, field.get word = field.get word' := by
  constructor
  · intro h field hfield
    rw [← get_and_mask hfield word, h, get_and_mask hfield]
  · intro h
    rw [mask_eq_assemble, ← assemble_get, ← assemble_get]
    refine assemble_congr fun field hfield => ?_
    rw [h field hfield]

end Format

/-! ## The bits of a format -/

/-- The word whose bits from `low` to `high` are set. -/
def span (low high : ℕ) : Word := UInt64.ofNat (Nat.pow 2 (high + 1) - Nat.pow 2 low)

/-- A span up to `high` is a mask of `high + 1 - low` ones at position `low`. -/
lemma span_exponents (low high : ℕ) :
    2 ^ (high + 1) - 2 ^ low = (2 ^ (high + 1 - low) - 1) * 2 ^ low := by
  rcases le_total low (high + 1) with h | h
  · rw [Nat.sub_mul, ← pow_add, Nat.sub_add_cancel h, Nat.one_mul]
  · have hle : 2 ^ (high + 1) ≤ 2 ^ low := Nat.pow_le_pow_right (by decide) h
    rw [Nat.sub_eq_zero_of_le hle, Nat.sub_eq_zero_of_le h, Nat.pow_zero, Nat.sub_self,
      Nat.zero_mul]

lemma bitAt_span {low high : ℕ} (hhigh : high < wordBits) (i : ℕ) :
    bitAt (span low high) i = decide (low ≤ i ∧ i ≤ high) := by
  have hbound : 2 ^ (high + 1) - 2 ^ low < 2 ^ 64 := by
    have hpow : 2 ^ (high + 1) ≤ 2 ^ 64 := Nat.pow_le_pow_right (by decide) hhigh
    have hlow : 0 < 2 ^ low := Nat.two_pow_pos low
    omega
  have hspan : (span low high).toNat = (2 ^ (high + 1 - low) - 1) * 2 ^ low := by
    rw [← span_exponents]
    exact Nat.mod_eq_of_lt hbound
  rw [bitAt, hspan, Nat.testBit_mul_two_pow, Nat.testBit_two_pow_sub_one, ← Bool.decide_and]
  refine decide_eq_decide.mpr ?_
  omega

namespace Format

/-- **The bits that a format defines**, as ranges of positions from the top of the word down. -/
def definedBits : Format → Word
  | register => span 37 63 ||| span 32 33 ||| span 26 31
  | immediate => span 42 63 ||| span 0 33
  | branch => span 52 63 ||| span 0 47
  | memory => span 42 63 ||| span 34 36 ||| span 0 31

/-- The fields of a format cover exactly the bits that it defines. -/
lemma mask_eq_definedBits (format : Format) : format.mask = format.definedBits := by
  cases format <;> rfl

end Format

end WordCodec
