import Mathlib.Data.Nat.Bitwise
import WordCodec.Proofs.Flags

/-!
# The flags as a record

Seven flags and a mode share one word, and the updates work on the word as a whole: assigning may
reach into the mode, and `withMode` clears and fills a range next to the flags.  Here the same
updates are defined on a `Record`, where each flag is a field and so is the mode; there they cannot
get in each other's way by construction.

* `getters` — a state as a record: what `contains` answers for each flag, and `mode`.
* `getters_apply` — **the step**: updating the word and then asking the getters is the same as
  asking them first and updating the record.
* `getters_run` — hence the same for a run of updates of any length.
* `withMode_assign_comm`, `withMode_withMode`, `contains_assign` — what a reader of records expects,
  as equations between states: they hold with any reserved bits too.

Both sides are compared bit by bit: a flag is the bit at its position (`getters_isSet`), and bit `i`
of the mode is bit `i + 7` of the word (`getters_mode_getLsbD`).
-/

namespace WordCodec.StatusFlags

/-! ## Records -/

/-- One of the seven flags. -/
inductive Flag where
  | negative | zero | carry | overflow | irqDisable | fiqDisable | thumb
  deriving DecidableEq, Repr

/-- The state in which nothing but the flag is set. -/
def Flag.alone : Flag → StatusFlags
  | negative => StatusFlags.negative
  | zero => StatusFlags.zero
  | carry => StatusFlags.carry
  | overflow => StatusFlags.overflow
  | irqDisable => StatusFlags.irqDisable
  | fiqDisable => StatusFlags.fiqDisable
  | thumb => StatusFlags.thumb

/-- The position of a flag in a number. -/
def Flag.position : Flag → ℕ
  | negative => 0
  | zero => 1
  | carry => 2
  | overflow => 3
  | irqDisable => 4
  | fiqDisable => 5
  | thumb => 6

/-- Seven flags and a mode of five bits, each on its own. -/
@[ext] structure Record where
  /-- Which of the flags are set. -/
  isSet : Flag → Bool
  /-- The processor mode. -/
  mode : BitVec 5

namespace Record

/-- No flag is set, and the mode is zero. -/
def clear : Record := ⟨fun _ => false, 0⟩

/-- The record that a number describes; its reserved bits do not matter. -/
def ofNumber (bits : UInt32) : Record where
  isSet flag := bits.toNat.testBit flag.position
  mode := BitVec.ofNat 5 (bits.toNat / 128)

/-- The flags and mode bits that `named` has are set or cleared; the others stay. -/
def assign (record named : Record) (on : Bool) : Record where
  isSet flag := if named.isSet flag then on else record.isSet flag
  mode := if on then record.mode ||| named.mode else record.mode &&& ~~~named.mode

@[simp] lemma assign_isSet (record named : Record) (on : Bool) (flag : Flag) :
    (record.assign named on).isSet flag = if named.isSet flag then on else record.isSet flag := rfl

lemma assign_mode_getLsbD (record named : Record) (on : Bool) {i : ℕ} (hi : i < 5) :
    (record.assign named on).mode.getLsbD i
      = if named.mode.getLsbD i then on else record.mode.getLsbD i := by
  cases on with
  | true =>
      rw [assign, if_pos rfl, BitVec.getLsbD_or]
      cases named.mode.getLsbD i <;> simp
  | false =>
      rw [assign, if_neg (by decide), BitVec.getLsbD_and, BitVec.getLsbD_not]
      cases named.mode.getLsbD i <;> simp [hi]

/-- The mode is replaced, by the remainder of `mode` modulo 32. -/
def withMode (record : Record) (mode : UInt8) : Record :=
  { record with mode := BitVec.ofNat 5 mode.toNat }

/-- The flags and mode bits of either. -/
def union (record other : Record) : Record where
  isSet flag := record.isSet flag || other.isSet flag
  mode := record.mode ||| other.mode

@[simp] lemma union_isSet (record other : Record) (flag : Flag) :
    (record.union other).isSet flag = (record.isSet flag || other.isSet flag) := rfl

/-- The record after an update. -/
def apply (record : Record) : Update → Except Json.Error Record
  | .replace bits => .ok (ofNumber bits)
  | .assign bits on => .ok (record.assign (ofNumber bits) on)
  | .withMode mode => .ok (record.withMode mode)
  | .union bits => .ok (record.union (ofNumber bits))
  | .load text => (fun loaded => ofNumber loaded.bits) <$> form.parse text

end Record

/-! ## A state as a record -/

/-- **A flag is set if its bit is.** -/
lemma contains_alone (flags : StatusFlags) (flag : Flag) :
    flags.contains flag.alone = flags.bitAt flag.position := by
  have hmask : flag.alone.bits.toNat = 2 ^ flag.position := by
    cases flag <;> rfl
  have hpos : 0 ≠ 2 ^ flag.position := (Nat.two_pow_pos _).ne
  rw [contains, Bool.eq_iff_iff, beq_iff_eq, ← UInt32.toNat_inj, UInt32.toNat_and, hmask,
    Nat.and_two_pow, bitAt]
  cases flags.bits.toNat.testBit flag.position <;> simp [hpos]

lemma testBit_mode (flags : StatusFlags) (i : ℕ) :
    flags.mode.toNat.testBit i = (decide (i < 5) && flags.bitAt (i + 7)) := by
  have hshift : modeShift < wordBits := by decide
  have hbyte : flags.mode.toNat.testBit i = (decide (i < 8)
      && WordCodec.bitAt (extract flags.bits.toUInt64 modeShift modeWidth) i) := by
    rw [mode, UInt64.toNat_toUInt8, Nat.testBit_mod_two_pow]
    rfl
  have hword : WordCodec.bitAt flags.bits.toUInt64 (i + 7) = flags.bitAt (i + 7) := by
    rw [WordCodec.bitAt, UInt32.toNat_toUInt64]
    rfl
  rw [hbyte, bitAt_extract _ hshift]
  simp only [modeShift, modeWidth, hword]
  by_cases hi : i < 5
  · have hbits : i < 8 := by omega
    simp [hi, hbits]
  · simp [hi]

/-- A mode has five bits. -/
lemma mode_lt (flags : StatusFlags) : flags.mode.toNat < 32 := by
  refine Nat.lt_pow_two_of_testBit (n := 5) _ fun i hi => ?_
  have hwide : ¬i < 5 := by omega
  rw [testBit_mode]
  simp [hwide]

/-- **What the getters answer**: whether the flags are set one by one, and the mode. -/
def getters (flags : StatusFlags) : Record where
  isSet flag := flags.contains flag.alone
  mode := BitVec.ofNatLT flags.mode.toNat flags.mode_lt

@[simp] lemma getters_isSet (flags : StatusFlags) (flag : Flag) :
    (getters flags).isSet flag = flags.bitAt flag.position :=
  contains_alone flags flag

@[simp] lemma getters_mode_getLsbD (flags : StatusFlags) (i : ℕ) :
    (getters flags).mode.getLsbD i = (decide (i < 5) && flags.bitAt (i + 7)) := by
  rw [getters, BitVec.getLsbD_ofNatLT, testBit_mode]

lemma ofNumber_mode_getLsbD (bits : UInt32) (i : ℕ) :
    (Record.ofNumber bits).mode.getLsbD i = (decide (i < 5) && bits.toNat.testBit (i + 7)) := by
  have hhigh : bits.toNat / 128 = bits.toNat / 2 ^ 7 := rfl
  rw [Record.ofNumber, BitVec.getLsbD_ofNat, hhigh, Nat.testBit_div_two_pow]

lemma position_lt (flag : Flag) : flag.position < 7 := by
  cases flag <;> decide

/-- Two records are the same if their flags are and the bits of their modes. -/
lemma Record.eq_of_bits {record other : Record}
    (hflags : ∀ flag, record.isSet flag = other.isSet flag)
    (hmode : ∀ i, i < 5 → record.mode.getLsbD i = other.mode.getLsbD i) : record = other :=
  Record.ext (funext hflags) (BitVec.eq_of_getLsbD_eq hmode)

/-! ## Updating either way -/

/-- The getters say the same of a number as the record that it describes. -/
lemma getters_eq_ofNumber (flags : StatusFlags) : getters flags = Record.ofNumber flags.bits := by
  refine Record.eq_of_bits (fun flag => getters_isSet flags flag) fun i hi => ?_
  rw [getters_mode_getLsbD, ofNumber_mode_getLsbD]
  rfl

lemma getters_ofBits (bits : UInt32) : getters (ofBits bits) = Record.ofNumber bits := by
  refine Record.eq_of_bits (fun flag => ?_) fun i hi => ?_
  · have hdefined : flag.position < 12 := (position_lt flag).trans (by decide)
    rw [getters_isSet, bitAt_ofBits]
    simp [hdefined, Record.ofNumber]
  · have hdefined : i + 7 < 12 := by omega
    rw [getters_mode_getLsbD, bitAt_ofBits, ofNumber_mode_getLsbD]
    simp [hdefined]

lemma getters_assign (flags other : StatusFlags) (on : Bool) :
    getters (flags.assign other on) = (getters flags).assign (getters other) on := by
  refine Record.eq_of_bits (fun flag => ?_) fun i hi => ?_
  · rw [getters_isSet, bitAt_assign, Record.assign_isSet, getters_isSet, getters_isSet]
  · rw [getters_mode_getLsbD, bitAt_assign, Record.assign_mode_getLsbD _ _ _ hi,
      getters_mode_getLsbD, getters_mode_getLsbD]
    simp [hi]

lemma getters_withMode (flags : StatusFlags) (mode : UInt8) :
    getters (flags.withMode mode) = (getters flags).withMode mode := by
  refine Record.eq_of_bits (fun flag => ?_) fun i hi => ?_
  · have hbelow : ¬(7 ≤ flag.position ∧ flag.position < 12) := by
      have := position_lt flag
      omega
    rw [getters_isSet, bitAt_withMode, if_neg hbelow]
    simp [Record.withMode]
  · have hmode : 7 ≤ i + 7 ∧ i + 7 < 12 := by omega
    rw [getters_mode_getLsbD, bitAt_withMode, if_pos hmode, Nat.add_sub_cancel, Record.withMode,
      BitVec.getLsbD_ofNat]

lemma getters_union (flags other : StatusFlags) :
    getters (flags.union other) = (getters flags).union (getters other) := by
  refine Record.eq_of_bits (fun flag => ?_) fun i hi => ?_
  · rw [getters_isSet, bitAt_union, Record.union_isSet, getters_isSet, getters_isSet]
  · rw [getters_mode_getLsbD, bitAt_union, Record.union, BitVec.getLsbD_or, getters_mode_getLsbD,
      getters_mode_getLsbD, Bool.and_or_distrib_left]

lemma getters_none : getters none = Record.clear := by
  refine Record.eq_of_bits (fun flag => ?_) fun i hi => ?_
  · rw [getters_isSet]
    exact Nat.zero_testBit flag.position
  · rw [getters_mode_getLsbD]
    simp [bitAt, none, Record.clear]

/-- **The step.**  Updating the word and asking the getters is asking them and updating the
record. -/
lemma getters_apply (flags : StatusFlags) (update : Update) :
    getters <$> flags.apply update = (getters flags).apply update := by
  cases update with
  | replace bits => exact congrArg Except.ok (getters_ofBits bits)
  | assign bits on =>
      refine congrArg Except.ok ?_
      rw [getters_assign, getters_ofBits]
  | withMode mode => exact congrArg Except.ok (getters_withMode flags mode)
  | union bits =>
      refine congrArg Except.ok ?_
      rw [getters_union, getters_ofBits]
  | load text =>
      have hread : getters = fun loaded => Record.ofNumber loaded.bits :=
        funext getters_eq_ofNumber
      simp only [apply, Record.apply, hread]

/-- **The run.**  By induction on the updates, from any state, since the step changes it. -/
lemma getters_foldlM (updates : List Update) : ∀ flags : StatusFlags,
    getters <$> updates.foldlM apply flags = updates.foldlM Record.apply (getters flags) := by
  induction updates with
  | nil => exact fun flags => rfl
  | cons update updates ih =>
      intro flags
      rw [List.foldlM_cons, List.foldlM_cons, ← getters_apply, map_bind, bind_map_left]
      exact bind_congr ih

lemma getters_run (updates : List Update) :
    getters <$> run updates = updates.foldlM Record.apply Record.clear := by
  rw [run, getters_foldlM, getters_none]

/-- Only the reading of a text can end a run. -/
lemma run_succeeds {updates : List Update} (h : ∀ text, .load text ∉ updates) :
    ∃ flags, run updates = .ok flags := by
  induction updates using List.reverseRecOn with
  | nil => exact ⟨none, rfl⟩
  | append_singleton updates update ih =>
      obtain ⟨before, hbefore⟩ := ih fun text hmem => h text (List.mem_append_left _ hmem)
      rw [run_append_singleton, hbefore]
      cases update with
      | load text => exact absurd (by simp) (h text)
      | _ => exact ⟨_, rfl⟩

/-! ## Laws of the mode and the flags -/

lemma bitAt_of_mode_eq_zero {flags : StatusFlags} (h : flags.mode = 0) {i : ℕ} (hlow : 7 ≤ i)
    (hhigh : i < 12) : flags.bitAt i = false := by
  have hbit := testBit_mode flags (i - 7)
  have hback : i - 7 + 7 = i := by omega
  have hwidth : i - 7 < 5 := by omega
  rw [h, hback] at hbit
  simpa [hwidth] using hbit.symm

/-- **The mode and the flags are set in any order.** -/
lemma withMode_assign_comm (flags : StatusFlags) {other : StatusFlags} (h : other.mode = 0)
    (mode : UInt8) (on : Bool) :
    (flags.withMode mode).assign other on = (flags.assign other on).withMode mode := by
  refine eq_of_bitAt_eq fun i => ?_
  rw [bitAt_assign, bitAt_withMode, bitAt_withMode, bitAt_assign]
  by_cases hi : 7 ≤ i ∧ i < 12
  · rw [bitAt_of_mode_eq_zero h hi.1 hi.2, if_neg (by decide), if_pos hi, if_pos hi]
  · rw [if_neg hi, if_neg hi]

lemma withMode_withMode (flags : StatusFlags) (mode mode' : UInt8) :
    (flags.withMode mode).withMode mode' = flags.withMode mode' := by
  refine eq_of_bitAt_eq fun i => ?_
  rw [bitAt_withMode, bitAt_withMode, bitAt_withMode]
  split_ifs <;> rfl

/-- **What has been set is contained.** -/
lemma contains_assign (flags other : StatusFlags) :
    (flags.assign other true).contains other = true := by
  rw [contains, beq_iff_eq, assign, if_pos rfl]
  refine UInt32.toNat_inj.mp (Nat.eq_of_testBit_eq fun i => ?_)
  rw [UInt32.toNat_and, UInt32.toNat_or, Nat.testBit_and, Nat.testBit_or]
  cases other.bits.toNat.testBit i <;> simp

/-- **The flags and the mode behave as fields of a record.**  Whatever updates are run, the getters
answer what the record says that the same updates lead to, and without a text to read there is such
an answer.  The mode may be set before or after any flags, the last mode counts, and flags that have
been set are contained.  All of this holds in every state, whatever its reserved bits, and so does
that `withMode` reaches the mode only and `assign` the named bits only. -/
theorem getters_follow_record (updates : List Update) (flags other : StatusFlags)
    (mode mode' : UInt8) (on : Bool) :
    getters <$> run updates = updates.foldlM Record.apply Record.clear
      ∧ ((∀ text, .load text ∉ updates) → ∃ final, run updates = .ok final)
      ∧ (other.mode = 0 →
          (flags.withMode mode).assign other on = (flags.assign other on).withMode mode
            ∧ (flags.withMode mode).union other = (flags.union other).withMode mode)
      ∧ (flags.withMode mode).withMode mode' = flags.withMode mode'
      ∧ (flags.assign other true).contains other = true
      ∧ (∀ i, ¬(7 ≤ i ∧ i < 12) → (flags.withMode mode).bitAt i = flags.bitAt i)
      ∧ ∀ i, other.bitAt i = false → (flags.assign other on).bitAt i = flags.bitAt i := by
  refine ⟨getters_run updates, run_succeeds, fun h => ⟨?_, ?_⟩, withMode_withMode flags mode mode',
    contains_assign flags other, fun i hi => ?_, fun i hi => ?_⟩
  · exact withMode_assign_comm flags h mode on
  · rw [union_eq_assign, union_eq_assign]
    exact withMode_assign_comm flags h mode true
  · rw [bitAt_withMode, if_neg hi]
  · rw [bitAt_assign, hi, if_neg (by decide)]

/-- A mode of more than five bits spills neither into the flags below nor into the bits above. -/
theorem getters_follow_record_past_wide_mode :
    (∀ text, Update.load text ∉ [.union 5, .withMode 0xFF])
      ∧ (∃ final, run [.union 5, .withMode 0xFF] = .ok final)
      ∧ carry.mode = 0
      ∧ (none.withMode 0xFF).assign carry true = (none.assign carry true).withMode 0xFF
      ∧ (none.withMode 0xFF).bitAt 6 = none.bitAt 6
      ∧ (none.withMode 0xFF).bitAt 12 = none.bitAt 12
      ∧ carry.bitAt 3 = false ∧ (none.assign carry true).bitAt 3 = none.bitAt 3 := by
  have hnumbers : ∀ text, Update.load text ∉ [.union 5, .withMode 0xFF] := by simp
  have hmode : carry.mode = 0 := by decide
  have hcarry : carry.bitAt 3 = false := by decide
  obtain ⟨-, hrun, hcomm, -, -, houtside, hothers⟩ :=
    getters_follow_record [.union 5, .withMode 0xFF] none carry 0xFF 0 true
  exact ⟨hnumbers, hrun hnumbers, hmode, (hcomm hmode).1, houtside 6 (by decide),
    houtside 12 (by decide), hcarry, hothers 3 hcarry⟩

end WordCodec.StatusFlags
