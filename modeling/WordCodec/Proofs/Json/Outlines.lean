import WordCodec.Proofs.Json.Counting

/-!
# Outlines

How a value of several parts may be written: as a record of scalars, perhaps behind the letter of a
variant.  An `Outline` gives the letter and the fields; from it follow all texts that stand for the
value (`Outline.Written`), and those that do not give every field of it exactly once
(`Outline.Miscounted`).

A form **follows** an outline if it reads the value from all of the former, and nothing from any of
the latter.  Records of scalars do, with or without a letter.
-/

namespace WordCodec.Json

/-- What a text has to say of a value. -/
structure Outline where
  /-- The letter of its variant, if the value stands behind one. -/
  letter : Option String
  /-- The fields of its record with their scalars. -/
  fields : List (String × Scalar)
  deriving DecidableEq, Repr

/-- **A record** is an object that lists every field once, in any order and among any entries under
other keys, or a list of the values in their order. -/
inductive RecordWritten (fields : List (String × Scalar)) : List Char → Prop
  | object {own extra entries : List (String × List Char)} {s : List Char} :
      List.Forall₂ Entered fields own →
      (∀ entry ∈ extra, entry.1 ∉ fields.map Prod.fst ∧ IsValue entry.2) →
      entries.Perm (own ++ extra) → ObjectWritten TextKey entries s → RecordWritten fields s
  | list {items : List (List Char)} {s : List Char} :
      List.Forall₂ (fun field item => field.2.Written item) fields items →
      ListWritten items s → RecordWritten fields s

/-- An object in which a field occurs never or more than once, or a list with another number of
values than there are fields. -/
inductive RecordMiscounted (fields : List (String × Scalar)) : List Char → Prop
  | object {entries : List (String × List Char)} {key : String} {s : List Char} :
      (∀ entry ∈ entries, IsValue entry.2) → key ∈ fields.map Prod.fst →
      (entries.map Prod.fst).count key ≠ 1 → ObjectWritten TextKey entries s →
      RecordMiscounted fields s
  | list {items : List (List Char)} {s : List Char} :
      (∀ item ∈ items, IsValue item) → items.length ≠ fields.length → ListWritten items s →
      RecordMiscounted fields s

namespace Outline

/-- What stands behind the letter, if there is one. -/
def Behind (outline : Outline) (Content : List Char → Prop) : List Char → Prop :=
  match outline.letter with
  | none => Content
  | some letter => TagWritten letter Content

/-- The texts that stand for a value. -/
def Written (outline : Outline) (text : String) : Prop :=
  ∃ s, outline.Behind (RecordWritten outline.fields) s ∧ Padded s text.toList

/-- The texts that do not give every field of a value exactly once. -/
def Miscounted (outline : Outline) (text : String) : Prop :=
  ∃ s, outline.Behind (RecordMiscounted outline.fields) s ∧ Padded s text.toList

end Outline

variable {α β τ σ : Type}

/-- The form reads a value as the outline says, and prints it so. -/
structure Form.Outlined (form : Form α) (x : α) (outline : Outline) : Prop where
  takes : Takes form.read x (outline.Behind (RecordWritten outline.fields))
  refuses : Refuses form.read (outline.Behind (RecordMiscounted outline.fields))
  prints : outline.Behind (RecordWritten outline.fields) (form.write x)

/-- **Following an outline.**  Every text that stands for a value is read as that value, and every
text that does not give each of its fields exactly once is refused. -/
structure Form.Follows (form : Form α) (outline : α → Outline) : Prop where
  reads : ∀ x text, (outline x).Written text → form.parse text = .ok x
  rejects : ∀ x text, (outline x).Miscounted text → ∃ e, form.parse text = .error e

lemma Form.follows_of_outlined {form : Form α} {outline : α → Outline}
    (h : ∀ x, form.Outlined x (outline x)) : form.Follows outline := by
  refine ⟨?_, ?_⟩
  · rintro x text ⟨s, hs, htext⟩
    exact parse_of_takes (h x).takes hs htext
  · rintro x text ⟨s, hs, htext⟩
    exact parse_of_refuses (h x).refuses hs htext

/-! ## Records -/

/-- An open record of scalars without defaults, by the fields of one value. -/
structure Record.Lists (record : Record τ σ) (values : τ) (fields : List (String × Scalar)) :
    Prop where
  shows : record.members.Shows values fields
  keys : record.members.keys.Nodup
  isOpen : record.closed = false
  required : record.members.Required

namespace Record.Lists

variable {record : Record τ σ} {values : τ} {fields : List (String × Scalar)}

lemma takes (h : record.Lists values fields) : Takes record.read values (RecordWritten fields) := by
  rintro s w rest hs hw hrest
  cases hs with
  | @object own extra entries s hown hextra hperm hs =>
      have hnames := h.shows.map_fst
      have hfst := hperm.map Prod.fst
      rw [List.map_append, map_fst_of_entered hown, hnames] at hfst
      refine takes_object h.shows h.keys ?_ ?_ ?_ s w rest hs hw hrest
      · intro entry hentry
        rcases List.mem_append.mp (hperm.mem_iff.mp hentry) with hentry | hentry
        · exact .inl (exists_of_mem_entered hown hentry)
        · exact .inr ⟨h.isOpen, hextra entry hentry⟩
      · intro key hkey
        have hnone : key ∉ extra.map Prod.fst := by
          intro hmem
          obtain ⟨entry, hentry, rfl⟩ := List.mem_map.mp hmem
          rw [← hnames] at hkey
          exact (hextra entry hentry).1 hkey
        rw [hfst.count_eq, List.count_append, List.count_eq_zero_of_not_mem hnone]
        exact List.nodup_iff_count_le_one.mp h.keys key
      · refine Members.given_of_mem _ _ fun key hkey => ?_
        exact hfst.mem_iff.mpr (List.mem_append_left _ hkey)
  | list hitems hs =>
      refine takes_list h.shows h.keys (List.append_nil fields).symm hitems ?_ s w rest hs hw hrest
      refine Members.given_of_mem _ _ fun key hkey => ?_
      rwa [h.shows.map_fst]

lemma refuses (h : record.Lists values fields) : Refuses record.read (RecordMiscounted fields) := by
  rintro s w rest hs hw hrest
  cases hs with
  | object hvalues hkey hcount hs =>
      rw [h.shows.map_fst] at hkey
      exact refuses_miscounted h.shows h.keys h.required hvalues hkey hcount s w rest hs hw hrest
  | list hvalues hlength hs =>
      rw [← List.length_map Prod.fst, h.shows.map_fst] at hlength
      exact refuses_list_of_length_ne h.shows h.required hvalues hlength s w rest hs hw hrest

lemma prints (h : record.Lists values fields) : RecordWritten fields (record.write values) := by
  obtain ⟨entries, hentered, hwritten⟩ := exists_entries_of_write h.shows
  have hperm : entries.Perm (entries ++ []) := by rw [List.append_nil]
  exact .object hentered (by simp) hperm hwritten

lemma outlined (h : record.Lists values fields) : record.form.Outlined values ⟨none, fields⟩ :=
  ⟨h.takes, h.refuses, h.prints⟩

end Record.Lists

namespace Form.Outlined

variable {form : Form β} {x : β} {outline : Outline} {fields : List (String × Scalar)}

/-- A type written in the form of another. -/
lemma via {toValue : β → α} {ofValue : α → β} {y : α} (h : form.Outlined x outline)
    (hx : ofValue y = x) (hy : toValue x = y) : (form.via toValue ofValue).Outlined y outline := by
  subst hx
  have htakes : Takes (form.via toValue ofValue).read (toValue (ofValue y)) _ := takes_via h.takes
  rw [hy] at htakes
  exact ⟨htakes, refuses_via h.refuses, h.prints⟩

/-- A value behind the letter of a variant. -/
lemma behind {choice : Form α} {variants : List (Variant α)} {kind : Content} {letter : String}
    {wrap : β → α} {y : α} (h : form.Outlined x ⟨none, fields⟩) (hread : choice.read = readChoice variants)
    (hvariant : findVariant variants letter = .ok (.carrying kind letter form wrap))
    (hy : wrap x = y) (hwrite : choice.write y = tagged letter (form.write x)) (hletter : Verbatim letter) :
    choice.Outlined y ⟨some letter, fields⟩ := by
  subst hy
  refine ⟨?_, ?_, ?_⟩
  · rw [hread]
    exact takes_tag hvariant (takes_carrying kind letter wrap h.takes)
  · rw [hread]
    exact refuses_tag hvariant (refuses_carrying kind letter wrap h.refuses)
  · rw [hwrite]
    exact tagWritten_tagged hletter h.prints

end Form.Outlined

end WordCodec.Json
