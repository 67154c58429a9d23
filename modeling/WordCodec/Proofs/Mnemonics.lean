import WordCodec.Proofs.Names

/-!
# Looking up mnemonics

A mnemonic is found in any mixture of capitals and small letters.  The lookup searches the list of
all operations for the first whose mnemonic is the text without regard to case, and the main
statement says what that comes to.

* `Spells` — a text spells a name: it is **as long as the name**, and each of its characters is the
  one of the name or the small letter to it.  So nothing is trimmed, and a character that is no
  ASCII letter stands for itself only.
* `eqIgnoringCase_iff` — comparing small letters decides this for a name without small letters, and
  mnemonics are such names (`notSmall_of_mem_mnemonic`).
* `map_toUpper_eq_iff` — so does mapping the text to capitals, as the statements put it.
* `lookupIn_eq_ok_iff` — no two operations share a mnemonic, whatever their formats; so the search
  may go through the operations in any order.
-/

namespace WordCodec

/-! ## Capitals and small letters -/

/-- Whether `c` is one of the 26 small letters of ASCII. -/
def IsSmall (c : Char) : Prop := 'a'.toNat ≤ c.toNat ∧ c.toNat ≤ 'z'.toNat

instance (c : Char) : Decidable (IsSmall c) := inferInstanceAs (Decidable (_ ∧ _))

/-- Whether `c` is one of the 26 capitals of ASCII. -/
def IsCapital (c : Char) : Prop := 'A'.toNat ≤ c.toNat ∧ c.toNat ≤ 'Z'.toNat

instance (c : Char) : Decidable (IsCapital c) := inferInstanceAs (Decidable (_ ∧ _))

/-- Whether `c` is the character `d`, or the small letter to the capital `d`. -/
def SpellsChar (c d : Char) : Prop :=
  c = d ∨ 'A'.toNat ≤ d.toNat ∧ d.toNat ≤ 'Z'.toNat ∧ c.toNat = d.toNat + 32

/-- **Whether a text spells a name** in capitals or small letters. -/
def Spells (text name : String) : Prop := List.Forall₂ SpellsChar text.toList name.toList

/-- Small letters stand 32 places behind their capitals. -/
lemma toNat_toUpper (c : Char) :
    c.toUpper.toNat = if IsSmall c then c.toNat - 32 else c.toNat := by
  have hsmall : ('a'.val ≤ c.val ∧ c.val ≤ 'z'.val) ↔ IsSmall c := by
    rw [UInt32.le_iff_toNat_le, UInt32.le_iff_toNat_le]
    rfl
  delta Char.toUpper
  by_cases h : IsSmall c
  · have hlow : 97 ≤ c.val.toNat := h.1
    have hhigh : c.val.toNat ≤ 122 := h.2
    rw [dif_pos (hsmall.mpr h), if_pos h]
    change (c.val + ('A'.val - 'a'.val)).toNat = c.val.toNat - 32
    have hback : ('A'.val - 'a'.val).toNat = 2 ^ 32 - 32 := rfl
    rw [UInt32.toNat_add, hback]
    omega
  · rw [dif_neg (mt hsmall.mp h), if_neg h]

/-- And capitals as far in front of their small letters. -/
lemma toNat_toLower (c : Char) :
    c.toLower.toNat = if IsCapital c then c.toNat + 32 else c.toNat := by
  have hcapital : ('A'.val ≤ c.val ∧ c.val ≤ 'Z'.val) ↔ IsCapital c := by
    rw [UInt32.le_iff_toNat_le, UInt32.le_iff_toNat_le]
    rfl
  delta Char.toLower
  by_cases h : IsCapital c
  · have hhigh : c.val.toNat ≤ 90 := h.2
    rw [dif_pos (hcapital.mpr h), if_pos h]
    change (c.val + ('a'.val - 'A'.val)).toNat = c.val.toNat + 32
    have hahead : ('a'.val - 'A'.val).toNat = 32 := rfl
    rw [UInt32.toNat_add, hahead]
    omega
  · rw [dif_neg (mt hcapital.mp h), if_neg h]

lemma char_eq_iff_toNat_eq {c d : Char} : c = d ↔ c.toNat = d.toNat :=
  ⟨congrArg Char.toNat, fun h => Char.ext (UInt32.toNat_inj.mp h)⟩

lemma spellsChar_iff {c d : Char} : SpellsChar c d
    ↔ c.toNat = d.toNat ∨ 65 ≤ d.toNat ∧ d.toNat ≤ 90 ∧ c.toNat = d.toNat + 32 := by
  rw [SpellsChar, char_eq_iff_toNat_eq]
  rfl

/-- A character becomes `d` as a capital just if it spells `d`, where `d` is not a small letter
itself. -/
lemma toUpper_eq_iff {c d : Char} (hd : ¬IsSmall d) : c.toUpper = d ↔ SpellsChar c d := by
  have hdSmall : ¬(97 ≤ d.toNat ∧ d.toNat ≤ 122) := hd
  rw [char_eq_iff_toNat_eq, toNat_toUpper, spellsChar_iff]
  by_cases hc : IsSmall c
  · have hcSmall : 97 ≤ c.toNat ∧ c.toNat ≤ 122 := hc
    rw [if_pos hc]
    omega
  · have hcSmall : ¬(97 ≤ c.toNat ∧ c.toNat ≤ 122) := hc
    rw [if_neg hc]
    omega

/-- A character has the small letter of `d` just if it spells `d`. -/
lemma toLower_eq_toLower_iff {c d : Char} (hd : ¬IsSmall d) :
    d.toLower = c.toLower ↔ SpellsChar c d := by
  have hdSmall : ¬(97 ≤ d.toNat ∧ d.toNat ≤ 122) := hd
  have hcapital : ∀ e : Char, IsCapital e ↔ 65 ≤ e.toNat ∧ e.toNat ≤ 90 := fun _ => Iff.rfl
  rw [char_eq_iff_toNat_eq, toNat_toLower, toNat_toLower, spellsChar_iff]
  simp only [hcapital]
  split_ifs <;> omega

/-- **Comparing without case decides whether a text spells a name without small letters.** -/
lemma eqIgnoringCase_iff : ∀ {text name : List Char}, (∀ d ∈ name, ¬IsSmall d) →
    (eqIgnoringCase name text = true ↔ List.Forall₂ SpellsChar text name)
  | [], [], _ => by simp [eqIgnoringCase]
  | [], _ :: _, _ => by simp [eqIgnoringCase]
  | _ :: _, [], _ => by simp [eqIgnoringCase]
  | c :: text, d :: name, h => by
      rw [List.forall_mem_cons] at h
      rw [eqIgnoringCase, Bool.and_eq_true, beq_iff_eq, List.forall₂_cons,
        toLower_eq_toLower_iff h.1, eqIgnoringCase_iff h.2]

/-- **Mapping a text to capitals** decides the same. -/
lemma map_toUpper_eq_iff : ∀ {text name : List Char}, (∀ d ∈ name, ¬IsSmall d) →
    (text.map Char.toUpper = name ↔ List.Forall₂ SpellsChar text name)
  | [], [], _ => by simp
  | [], _ :: _, _ => by simp
  | _ :: _, [], _ => by simp
  | c :: text, d :: name, h => by
      rw [List.forall_mem_cons] at h
      rw [List.map_cons, List.cons_eq_cons, List.forall₂_cons, toUpper_eq_iff h.1,
        map_toUpper_eq_iff h.2]

namespace Operation

/-! ## The search -/

/-- Mnemonics are written in capitals. -/
lemma notSmall_of_mem_mnemonic (op : Operation) : ∀ d ∈ op.mnemonic.toList, ¬IsSmall d := by
  -- Decided with `List.all`: as a statement about every `d` it may be decided character by
  -- character, through all there are.
  have hall : ∀ op ∈ all, op.mnemonic.toList.all (fun d => decide ¬IsSmall d) = true := by
    decide +kernel
  have hop := hall op (mem_all op)
  rw [List.all_eq_true] at hop
  exact fun d hd => of_decide_eq_true (hop d hd)

/-- **The capitals of a text are a mnemonic** just if it spells the mnemonic. -/
lemma toUpper_eq_mnemonic_iff {text : String} {op : Operation} :
    text.toUpper = op.mnemonic ↔ Spells text op.mnemonic := by
  rw [← String.toList_inj, String.toUpper, String.toList_map,
    map_toUpper_eq_iff op.notSmall_of_mem_mnemonic]
  rfl

/-- The lookup of a mnemonic, with the operations in another order. -/
def lookupIn (order : List Operation) (text : String) : Except CodecError Operation :=
  match order.find? (·.hasMnemonic text) with
  | some op => .ok op
  | none => .error (.unknownMnemonic text)

lemma ofMnemonic_eq_lookupIn (text : String) : ofMnemonic text = lookupIn all text := rfl

variable {order : List Operation} {text : String} {op : Operation}

/-- **The comparison of the lookup** is the one with the capitals of the text. -/
lemma hasMnemonic_iff : op.hasMnemonic text = true ↔ text.toUpper = op.mnemonic := by
  rw [toUpper_eq_mnemonic_iff, hasMnemonic, eqIgnoringCase_iff op.notSmall_of_mem_mnemonic]
  rfl

/-- **A search through all operations finds the one with the mnemonic**, in whatever order they
are listed. -/
lemma lookupIn_eq_ok_iff (horder : ∀ op, op ∈ order) :
    lookupIn order text = .ok op ↔ text.toUpper = op.mnemonic := by
  rw [lookupIn]
  constructor
  · intro h
    split at h
    · rename_i found hfound
      obtain rfl := Except.ok.inj h
      have hfirst := List.find?_some hfound
      exact hasMnemonic_iff.mp hfirst
    · cases h
  · intro h
    cases hfound : order.find? (·.hasMnemonic text) with
    | none => exact absurd (hasMnemonic_iff.mpr h) (List.find?_eq_none.mp hfound op (horder op))
    | some found =>
        have hfirst := List.find?_some hfound
        rw [mnemonic_inj.mp ((hasMnemonic_iff.mp hfirst).symm.trans h)]

lemma lookupIn_of_forall_ne (h : ∀ op ∈ order, text.toUpper ≠ op.mnemonic) :
    lookupIn order text = .error (.unknownMnemonic text) := by
  have hnone : order.find? (·.hasMnemonic text) = none :=
    List.find?_eq_none.mpr fun op hop => mt hasMnemonic_iff.mp (h op hop)
  rw [lookupIn, hnone]

/-- Two listings of all operations give the same answers. -/
lemma lookupIn_eq_ofMnemonic (horder : ∀ op, op ∈ order) (text : String) :
    lookupIn order text = ofMnemonic text := by
  rw [ofMnemonic_eq_lookupIn]
  by_cases h : ∃ op : Operation, text.toUpper = op.mnemonic
  · obtain ⟨op, hop⟩ := h
    rw [(lookupIn_eq_ok_iff horder).mpr hop, (lookupIn_eq_ok_iff mem_all).mpr hop]
  · have hne : ∀ op : Operation, text.toUpper ≠ op.mnemonic := fun op hop => h ⟨op, hop⟩
    rw [lookupIn_of_forall_ne fun op _ => hne op, lookupIn_of_forall_ne fun op _ => hne op]

/-- **A text names an operation exactly when its capitals are the mnemonic**, that is, when it
spells the mnemonic letter by letter.  It names at most one, so the order in which operations are
searched does not matter; and a text that names none is returned in the error as it is. -/
theorem ofMnemonic_accepts_spellings (text : String) :
    (∀ op, ofMnemonic text = .ok op ↔ text.toUpper = op.mnemonic)
      ∧ (∀ op : Operation, text.toUpper = op.mnemonic ↔ Spells text op.mnemonic)
      ∧ (∀ op other : Operation, text.toUpper = op.mnemonic → text.toUpper = other.mnemonic →
        op = other)
      ∧ (∀ order : List Operation, (∀ op, op ∈ order) → lookupIn order text = ofMnemonic text)
      ∧ ((∀ op : Operation, text.toUpper ≠ op.mnemonic) →
        ofMnemonic text = .error (.unknownMnemonic text)) :=
  ⟨fun _ => lookupIn_eq_ok_iff mem_all, fun _ => toUpper_eq_mnemonic_iff,
    fun _ _ h h' => mnemonic_inj.mp (h.symm.trans h'),
    fun _ horder => lookupIn_eq_ofMnemonic horder text,
    fun h => lookupIn_of_forall_ne fun op _ => h op⟩

/-- `bL` names the branch with a link, from whichever end the operations are searched.  A long s is
no letter of `SVC`, although its capital outside ASCII is. -/
theorem ofMnemonic_accepts_spellings_in_ascii :
    lookupIn all.reverse "bL" = .ok (.branch .bl)
      ∧ ofMnemonic "\u017Fvc" = .error (.unknownMnemonic "\u017Fvc") := by
  obtain ⟨hfound, -, -, horder, -⟩ := ofMnemonic_accepts_spellings "bL"
  obtain ⟨-, -, -, -, hnone⟩ := ofMnemonic_accepts_spellings "\u017Fvc"
  have hreverse : ∀ op, op ∈ all.reverse := fun op => List.mem_reverse.mpr op.mem_all
  have hunknown : ∀ op ∈ all, op.hasMnemonic "\u017Fvc" = false := by decide +kernel
  refine ⟨(horder all.reverse hreverse).trans ((hfound (.branch .bl)).mpr ?_),
    hnone fun op hop => ?_⟩
  · exact hasMnemonic_iff.mp rfl
  · have hnamed := hasMnemonic_iff.mpr hop
    rw [hunknown op op.mem_all] at hnamed
    cases hnamed

end Operation

end WordCodec
