import Mathlib.Tactic
import WordCodec.Machine.StatusFlags
import WordCodec.Proofs.Bits

/-!
# Runs of flag updates

A state of the flags is looked at bit by bit, `StatusFlags.bitAt`.  Each update says what becomes
of each bit, and a run of updates is followed from there.

**The reserved bits.**  Updates by number clear or ignore the reserved bits of the number, and
`withMode` reaches the mode only, so none of them sets a reserved bit.  Reading a state from a text
is different: it takes all 32 bits as they are.  Since only a `replace` or another `load` overwrites
the state as a whole, what a text put into the reserved bits stays there for as long as neither
comes.  `bits_le_iff_loadsLast` makes this exact: the reserved bits are clear after a run unless the
text that was read **last, and not replaced since**, had one of them set.
-/

namespace WordCodec.StatusFlags

/-! ## Bit by bit -/

/-- The bit at position `i`; from position 32 on there is none. -/
def bitAt (flags : StatusFlags) (i : ℕ) : Bool := flags.bits.toNat.testBit i

lemma eq_of_bitAt_eq {flags other : StatusFlags} (h : ∀ i, flags.bitAt i = other.bitAt i) :
    flags = other := by
  have hbits : flags.bits = other.bits := UInt32.toNat_inj.mp (Nat.eq_of_testBit_eq h)
  cases flags
  cases other
  simpa using hbits

lemma bitAt_of_le (flags : StatusFlags) {i : ℕ} (hi : 32 ≤ i) : flags.bitAt i = false := by
  refine Nat.testBit_lt_two_pow (lt_of_lt_of_le flags.bits.toNat_lt ?_)
  exact Nat.pow_le_pow_right (by decide) hi

/-- Of a number only the twelve defined bits are taken over. -/
lemma bitAt_ofBits (bits : UInt32) (i : ℕ) :
    (ofBits bits).bitAt i = (decide (i < 12) && bits.toNat.testBit i) := by
  have hmask : definedMask.toNat = 2 ^ 12 - 1 := rfl
  rw [bitAt, ofBits, UInt32.toNat_and, hmask, Nat.testBit_and, Nat.testBit_two_pow_sub_one,
    Bool.and_comm]

@[simp] lemma bitAt_union (flags other : StatusFlags) (i : ℕ) :
    (flags.union other).bitAt i = (flags.bitAt i || other.bitAt i) := by
  rw [bitAt, union, UInt32.toNat_or, Nat.testBit_or]
  rfl

lemma union_eq_assign (flags other : StatusFlags) : flags.union other = flags.assign other true :=
  rfl

lemma testBit_not (bits : UInt32) (i : ℕ) :
    (~~~bits).toNat.testBit i = (decide (i < 32) && !bits.toNat.testBit i) :=
  BitVec.getLsbD_not

/-- **Assigning** gives the named bits the value `on` and keeps the others. -/
lemma bitAt_assign (flags other : StatusFlags) (on : Bool) (i : ℕ) :
    (flags.assign other on).bitAt i = if other.bitAt i then on else flags.bitAt i := by
  cases on with
  | true =>
      rw [← union_eq_assign, bitAt_union]
      cases other.bitAt i <;> simp
  | false =>
      have hclear : (flags.assign other false).bitAt i
          = (flags.bitAt i && (decide (i < 32) && !other.bitAt i)) := by
        rw [bitAt, assign, if_neg (by decide), UInt32.toNat_and, Nat.testBit_and, testBit_not]
        rfl
      rw [hclear]
      by_cases hi : i < 32
      · cases other.bitAt i <;> simp [hi]
      · rw [bitAt_of_le flags (by omega)]
        simp

/-- A mode in its place, of which the low five bits count. -/
lemma testBit_modeBits (mode : UInt8) (i : ℕ) :
    (modeBits mode).toNat.testBit i
      = (decide (7 ≤ i ∧ i < 12) && mode.toNat.testBit (i - 7)) := by
  have hshift : modeShift < wordBits := by decide
  have hplace : (modeBits mode).toNat.testBit i
      = (decide (i < 32) && WordCodec.bitAt (place mode.toUInt64 modeShift modeWidth) i) := by
    rw [modeBits, UInt64.toNat_toUInt32, Nat.testBit_mod_two_pow]
    rfl
  have hmode : WordCodec.bitAt mode.toUInt64 (i - 7) = mode.toNat.testBit (i - 7) := by
    rw [WordCodec.bitAt, UInt8.toNat_toUInt64]
  rw [hplace, bitAt_place _ hshift]
  simp only [modeShift, modeWidth, wordBits, hmode]
  by_cases hi : 7 ≤ i ∧ i < 12
  · have hwide : i - 7 < 5 ∧ i < 32 ∧ i < 64 := by omega
    simp [hi, hwide]
  · by_cases hlow : 7 ≤ i
    · have hwide : ¬i - 7 < 5 := by omega
      simp [hi, hwide]
    · simp [hlow]

/-- The bits that make room for a mode are those of the widest mode. -/
lemma modeMask_eq_modeBits : modeMask = modeBits 0x1F := by decide

/-- **Another mode** leaves every bit outside the mode as it is. -/
lemma bitAt_withMode (flags : StatusFlags) (mode : UInt8) (i : ℕ) :
    (flags.withMode mode).bitAt i
      = if 7 ≤ i ∧ i < 12 then mode.toNat.testBit (i - 7) else flags.bitAt i := by
  have hclear : (flags.withMode mode).bitAt i
      = (flags.bitAt i && (decide (i < 32) && !(modeBits 0x1F).toNat.testBit i)
        || (modeBits mode).toNat.testBit i) := by
    rw [bitAt, withMode, modeMask_eq_modeBits, UInt32.toNat_or, Nat.testBit_or, UInt32.toNat_and,
      Nat.testBit_and, testBit_not]
    rfl
  rw [hclear, testBit_modeBits, testBit_modeBits]
  by_cases hi : 7 ≤ i ∧ i < 12
  · have hfull : Nat.testBit 31 (i - 7) = true := by
      have hones : 31 = 2 ^ 5 - 1 := rfl
      rw [hones, Nat.testBit_two_pow_sub_one, decide_eq_true_eq]
      omega
    simp [hi, hfull]
  · by_cases hword : i < 32
    · simp [hi, hword]
    · have hnone : flags.bitAt i = false := bitAt_of_le flags (by omega)
      simp [hi, hnone]

/-! ## The reserved bits -/

lemma bits_le_iff_bitAt (flags : StatusFlags) :
    flags.bits ≤ 0xFFF ↔ ∀ i, 12 ≤ i → flags.bitAt i = false := by
  have hle : flags.bits ≤ 0xFFF ↔ flags.bits.toNat < 2 ^ 12 := by
    rw [UInt32.le_iff_toNat_le]
    exact Nat.lt_succ_iff.symm
  rw [hle]
  constructor
  · intro h i hi
    exact Nat.testBit_lt_two_pow (lt_of_lt_of_le h (Nat.pow_le_pow_right (by decide) hi))
  · intro h
    exact Nat.lt_pow_two_of_testBit _ h

/-- The reserved bits are clear exactly when taking the state over as a number loses nothing. -/
lemma bits_le_iff_ofBits (flags : StatusFlags) :
    flags.bits ≤ 0xFFF ↔ ofBits flags.bits = flags := by
  rw [bits_le_iff_bitAt]
  constructor
  · intro h
    refine eq_of_bitAt_eq fun i => ?_
    rw [bitAt_ofBits]
    by_cases hi : i < 12
    · simp [hi, bitAt]
    · simp [hi, h i (by omega)]
  · intro h i hi
    have hreserved : ¬i < 12 := by omega
    rw [← h, bitAt_ofBits]
    simp [hreserved]

/-! ## Runs of updates -/

/-- The state after a run of updates, from no flag and mode zero; a text that cannot be read ends
the run. -/
def run (updates : List Update) : Except Json.Error StatusFlags := updates.foldlM apply none

/-- Whether an update overwrites the state as a whole. -/
def Update.overwrites : Update → Bool
  | replace _ | load _ => true
  | assign .. | withMode _ | union _ => false

/-- Whether `text` was read in the course of the updates and nothing has overwritten it since. -/
def LoadsLast (updates : List Update) (text : String) : Prop :=
  ∃ before after, updates = before ++ .load text :: after
    ∧ ∀ update ∈ after, update.overwrites = false

lemma run_append_singleton (updates : List Update) (update : Update) :
    run (updates ++ [update]) = run updates >>= fun flags => flags.apply update := by
  simp [run, List.foldlM_append]

lemma not_loadsLast_nil (text : String) : ¬LoadsLast [] text := by
  rintro ⟨before, after, h, -⟩
  simp at h

lemma loadsLast_append_singleton (updates : List Update) (update : Update) (text : String) :
    LoadsLast (updates ++ [update]) text
      ↔ update = .load text ∨ update.overwrites = false ∧ LoadsLast updates text := by
  constructor
  · rintro ⟨before, after, hsplit, hafter⟩
    rcases List.eq_nil_or_concat' after with rfl | ⟨after, last, rfl⟩
    · left
      exact List.singleton_inj.mp (List.append_inj' hsplit rfl).2
    · right
      rw [← List.cons_append, ← List.append_assoc] at hsplit
      obtain ⟨hupdates, hlast⟩ := List.append_inj' hsplit rfl
      obtain rfl := List.singleton_inj.mp hlast
      refine ⟨hafter update (by simp), before, after, hupdates, fun update' hmem => ?_⟩
      exact hafter update' (List.mem_append_left _ hmem)
  · rintro (rfl | ⟨hkeeps, before, after, rfl, hafter⟩)
    · exact ⟨updates, [], rfl, by simp⟩
    · refine ⟨before, after ++ [update], by simp, fun update' hmem => ?_⟩
      rcases List.mem_append.mp hmem with h | h
      · exact hafter update' h
      · rw [List.mem_singleton.mp h]
        exact hkeeps

/-- **The step.**  An update that does not overwrite the state keeps every reserved bit. -/
lemma bitAt_of_apply {flags next : StatusFlags} {update : Update}
    (h : flags.apply update = .ok next) (hkeeps : update.overwrites = false) {i : ℕ}
    (hi : 12 ≤ i) : next.bitAt i = flags.bitAt i := by
  have hreserved : ¬i < 12 := by omega
  cases update with
  | replace bits => cases hkeeps
  | assign bits on =>
      obtain rfl := Except.ok.inj h
      rw [bitAt_assign, bitAt_ofBits]
      simp [hreserved]
  | withMode mode =>
      obtain rfl := Except.ok.inj h
      rw [bitAt_withMode, if_neg (by omega)]
  | union bits =>
      obtain rfl := Except.ok.inj h
      rw [bitAt_union, bitAt_ofBits]
      simp [hreserved]
  | load text => cases hkeeps

lemma bits_le_iff_of_apply {flags next : StatusFlags} {update : Update}
    (h : flags.apply update = .ok next) (hkeeps : update.overwrites = false) :
    next.bits ≤ 0xFFF ↔ flags.bits ≤ 0xFFF := by
  rw [bits_le_iff_bitAt, bits_le_iff_bitAt]
  refine forall₂_congr fun i hi => ?_
  rw [bitAt_of_apply h hkeeps hi]

lemma ofBits_bits_le (bits : UInt32) : (ofBits bits).bits ≤ 0xFFF := by
  rw [bits_le_iff_bitAt]
  intro i hi
  have hreserved : ¬i < 12 := by omega
  rw [bitAt_ofBits]
  simp [hreserved]

/-- An update that overwrites the state leaves the reserved bits clear unless it reads them. -/
lemma bits_le_iff_of_overwrites {flags next : StatusFlags} {update : Update}
    (h : flags.apply update = .ok next) (hoverwrites : update.overwrites = true) :
    next.bits ≤ 0xFFF ↔ ∀ text loaded, update = .load text →
      form.parse text = .ok loaded → loaded.bits ≤ 0xFFF := by
  cases update with
  | replace bits =>
      obtain rfl := Except.ok.inj h
      refine ⟨fun _ text loaded hload => ?_, fun _ => ofBits_bits_le bits⟩
      cases hload
  | load text =>
      have hparse : form.parse text = .ok next := h
      constructor
      · rintro hnext text' loaded hload hloaded
        obtain rfl := Update.load.inj hload
        rw [hparse] at hloaded
        obtain rfl := Except.ok.inj hloaded
        exact hnext
      · intro hloads
        exact hloads text next rfl hparse
  | _ => cases hoverwrites

/-- **The run.**  The reserved bits are clear unless the text read last put something into them.
The induction is on the last update, since it decides whether what came before still matters. -/
lemma bits_le_iff_loadsLast (updates : List Update) :
    ∀ flags, run updates = .ok flags →
      (flags.bits ≤ 0xFFF ↔ ∀ text loaded, LoadsLast updates text →
        form.parse text = .ok loaded → loaded.bits ≤ 0xFFF) := by
  induction updates using List.reverseRecOn with
  | nil =>
      intro flags h
      obtain rfl := Except.ok.inj h
      refine ⟨fun _ text _ hlast => absurd hlast (not_loadsLast_nil text), fun _ => ?_⟩
      decide
  | append_singleton updates update ih =>
      intro flags h
      rw [run_append_singleton] at h
      cases hrun : run updates with
      | error error =>
          rw [hrun] at h
          cases h
      | ok before =>
          rw [hrun] at h
          have hstep : before.apply update = .ok flags := h
          simp only [loadsLast_append_singleton]
          cases hoverwrites : update.overwrites with
          | false =>
              have hload : ∀ text, update ≠ .load text := by
                rintro text rfl
                cases hoverwrites
              rw [bits_le_iff_of_apply hstep hoverwrites, ih before hrun]
              simp only [hload, false_or, true_and]
          | true =>
              rw [bits_le_iff_of_overwrites hstep hoverwrites]
              simp only [Bool.true_eq_false, false_and, or_false]

/-- **When the reserved bits are clear.**  After any run of updates they are, unless the text that
was read last and not overwritten since stands for a number with a reserved bit set; that number
keeps them set under every other update.  Clear reserved bits mean that taking the state over as a
number gives the state back. -/
theorem reserved_bits_clear_iff {updates : List Update} {flags : StatusFlags}
    (h : run updates = .ok flags) :
    (flags.bits ≤ 0xFFF ↔ ofBits flags.bits = flags)
      ∧ (flags.bits ≤ 0xFFF ↔ ∀ text loaded, LoadsLast updates text →
        form.parse text = .ok loaded → loaded.bits ≤ 0xFFF) :=
  ⟨bits_le_iff_ofBits flags, bits_le_iff_loadsLast updates flags h⟩

/-- Reading the number 4096 sets a reserved bit, which a union does not clear. -/
theorem reserved_bit_set_by_text :
    run [.load "4096", .union 1] = .ok ⟨4097⟩ ∧ ¬(4097 : UInt32) ≤ 0xFFF
      ∧ ∃ text loaded, LoadsLast [.load "4096", .union 1] text
        ∧ form.parse text = .ok loaded ∧ ¬loaded.bits ≤ 0xFFF := by
  have hrun : run [.load "4096", .union 1] = .ok ⟨4097⟩ := rfl
  have hset : ¬(4097 : UInt32) ≤ 0xFFF := by decide
  have hcause := mt (reserved_bits_clear_iff hrun).2.mpr hset
  push Not at hcause
  obtain ⟨text, loaded, hlast, hparse, hlarge⟩ := hcause
  exact ⟨hrun, hset, text, loaded, hlast, hparse, hlarge⟩

end WordCodec.StatusFlags
