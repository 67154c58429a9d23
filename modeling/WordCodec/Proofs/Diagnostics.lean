import WordCodec.Proofs.BuilderCalls

/-!
# What the checked builders log

A checked builder checks its operands as a row, from left to right, and its log is what the checks
say (`BuilderCall.run_eq_acceptAll`).  So the log of a call is read off the row.

* `log_acceptAll_standard` — the encoder that cuts operands down says something of **every** operand
  that does not fit, in the order of the operands, and nothing of the others.
* `acceptAll_strict_of_refused` — the strict encoder speaks **once**, of the first operand that does
  not fit.  The row behind that operand does not occur in what it makes of the row: nothing there
  is checked.

`Event.entry` is what an event looks like in a log, with its level, its text and its values.
-/

namespace WordCodec

/-- An event as it is written down. -/
structure Entry where
  level : Level
  message : String
  /-- The values by name, numbers in decimal. -/
  values : List (String × String)
  deriving DecidableEq, Repr

/-- An event with its level, its text and its values. -/
def Event.entry (event : Event) : Entry := ⟨event.level, event.message, event.values⟩

/-- The entry of an operand of which the field keeps the low bits only. -/
def Entry.truncating (field : Field) (value : ℕ) : Entry where
  level := .debug
  message := "truncating operand"
  values := [("field", field.name), ("value", Numeral.decimal value),
    ("kept", Numeral.decimal (value % Nat.pow 2 field.width)),
    ("width", Numeral.decimal field.width)]

/-- The entry of an operand that is refused. -/
def Entry.rejecting (field : Field) (value : ℕ) : Entry where
  level := .warn
  message := "rejecting operand"
  values := [("field", field.name), ("value", Numeral.decimal value),
    ("width", Numeral.decimal field.width)]

lemma Event.entry_truncating (field : Field) (value : UInt64) :
    (Event.truncating field value (truncate value field.width) field.width).entry
      = .truncating field value.toNat := by
  simp only [entry, level, message, values, toNat_truncate]
  rfl

lemma Event.entry_rejecting (field : Field) (value : UInt64) :
    (Event.rejecting field value field.width).entry = .rejecting field value.toNat := rfl

namespace Encoder

variable {values : Field → UInt64} {field : Field} {fields : List Field}

/-! ## One operand -/

lemma log_accept_standard_of_not_fits {value : UInt64} (h : ¬fits value field.width = true) :
    (standard.accept field value).log
      = [.truncating field value (truncate value field.width) field.width] := by
  have hkept : truncate value field.width ≠ value := mt (fits_iff_truncate_eq _ _).mpr h
  simp only [accept, standard, if_pos hkept]
  rfl

lemma accept_strict_of_not_fits {value : UInt64} (h : ¬fits value field.width = true) :
    strict.accept field value
      = ⟨.error (.operandOutOfRange field value field.width),
          [.rejecting field value field.width]⟩ := by
  simp only [accept, strict, checkOperand, if_neg h]
  rfl

/-! ## A row of operands -/

/-- **Every operand that does not fit is noted**, in the order of the operands. -/
lemma log_acceptAll_standard (values : Field → UInt64) (fields : List Field) :
    (standard.acceptAll values fields).log
      = (fields.filter fun field => !fits (values field) field.width).map fun field =>
          .truncating field (values field) (truncate (values field) field.width) field.width := by
  induction fields with
  | nil => rfl
  | cons field fields ih =>
      have hstep : (standard.acceptAll values (field :: fields)).log
          = (standard.accept field (values field)).log
            ++ (standard.acceptAll values fields).log := by
        rw [acceptAll_cons]
        exact Checked.log_bind_of_ok (result_accept_standard field (values field)) _
      rw [hstep, ih]
      by_cases hfits : fits (values field) field.width = true
      · rw [(log_accept_standard_eq_nil_iff field (values field)).mpr hfits]
        simp [hfits]
      · rw [log_accept_standard_of_not_fits hfits]
        simp [hfits]

/-- **The first operand that does not fit is refused, and what stands behind it is not looked at.**
The induction is on the operands before it, each of which is accepted in silence. -/
lemma acceptAll_strict_of_refused {before after : List Field}
    (hbefore : ∀ earlier ∈ before, fits (values earlier) earlier.width = true)
    (hfield : ¬fits (values field) field.width = true) :
    strict.acceptAll values (before ++ field :: after)
      = ⟨.error (.operandOutOfRange field (values field) field.width),
          [.rejecting field (values field) field.width]⟩ := by
  induction before with
  | nil => rw [List.nil_append, acceptAll_cons, accept_strict_of_not_fits hfield, Checked.error_bind]
  | cons earlier before ih =>
      rw [List.forall_mem_cons] at hbefore
      rw [List.cons_append, acceptAll_cons, strict.accept_of_fits hbefore.1, Checked.succeed_bind,
        ih hbefore.2]

end Encoder

namespace BuilderCall

/-! ## A call -/

/-- Whether the operand that a call gives to a field has bits above the field. -/
def TooWide (call : BuilderCall) (field : Field) : Prop :=
  Nat.pow 2 field.width ≤ (call.value field).toNat

instance (call : BuilderCall) (field : Field) : Decidable (call.TooWide field) :=
  inferInstanceAs (Decidable (_ ≤ _))

variable {call : BuilderCall} {field : Field}

lemma not_fits_iff_tooWide : ¬fits (call.value field) field.width = true ↔ call.TooWide field := by
  rw [fits_iff_toNat_lt, Nat.not_lt]
  rfl

lemma fits_of_not_tooWide (h : ¬call.TooWide field) :
    fits (call.value field) field.width = true :=
  not_not.mp (mt not_fits_iff_tooWide.mp h)

/-- **What is cut down is logged**, an event for every operand that is too wide. -/
lemma log_run_standard (call : BuilderCall) :
    (call.run .standard).log
      = (call.operandFields.filter fun field => call.TooWide field).map fun field =>
          .truncating field (call.value field) (truncate (call.value field) field.width)
            field.width := by
  have hfilter : (call.operandFields.filter fun field => !fits (call.value field) field.width)
      = call.operandFields.filter fun field => call.TooWide field := by
    refine List.filter_congr fun field _ => ?_
    rw [Bool.eq_iff_iff, decide_eq_true_iff, ← not_fits_iff_tooWide, Bool.not_eq_true',
      Bool.not_eq_true]
  rw [run_eq_acceptAll, Checked.log_bind_succeed, Encoder.log_acceptAll_standard, hfilter]

/-- The same log as it is written down. -/
lemma entries_run_standard (call : BuilderCall) :
    (call.run .standard).log.map Event.entry
      = (call.operandFields.filter fun field => call.TooWide field).map fun field =>
          .truncating field (call.value field).toNat := by
  rw [log_run_standard, List.map_map]
  exact List.map_congr_left fun field _ => Event.entry_truncating field (call.value field)

/-- **What is refused is logged once**, and nothing is said of what stands behind it. -/
lemma run_strict_of_refused {before after : List Field}
    (hsplit : call.operandFields = before ++ field :: after)
    (hbefore : ∀ earlier ∈ before, ¬call.TooWide earlier) (hfield : call.TooWide field) :
    call.run .strict
      = ⟨.error (.operandOutOfRange field (call.value field) field.width),
          [.rejecting field (call.value field) field.width]⟩ := by
  have hfits : ∀ earlier ∈ before, fits (call.value earlier) earlier.width = true :=
    fun earlier hearlier => fits_of_not_tooWide (hbefore earlier hearlier)
  rw [run_eq_acceptAll, hsplit,
    Encoder.acceptAll_strict_of_refused hfits (not_fits_iff_tooWide.mpr hfield),
    Checked.error_bind]

/-- **The log of a call is exact.**  The encoder that cuts operands down logs one event for every
operand that is too wide, in the order of the operands, and nothing else.

The strict encoder makes the word of the call in silence if no operand is too wide.  Otherwise it
refuses the first one that is, with one event, and the error and the event name the same field,
value and width.  It looks no further: a call that begins with the same operands, and goes on with
any others, is refused in the same way.

Both logs are given as events, which hold the field and the value themselves, and as the entries
that are written down for them. -/
theorem log_of_call_is_exact (call : BuilderCall) :
    (call.run .standard).log
        = (call.operandFields.filter fun field => call.TooWide field).map
            (fun field => .truncating field (call.value field)
              (truncate (call.value field) field.width) field.width)
      ∧ (call.run .standard).log.map Event.entry
        = (call.operandFields.filter fun field => call.TooWide field).map
            (fun field => .truncating field (call.value field).toNat)
      ∧ ((∀ field ∈ call.operandFields, ¬call.TooWide field) →
        call.run .strict = ⟨.ok call.word, []⟩)
      ∧ ∀ before field after, call.operandFields = before ++ field :: after →
        (∀ earlier ∈ before, ¬call.TooWide earlier) → call.TooWide field →
          (call.run .strict).result
              = .error (.operandOutOfRange field (call.value field) field.width)
            ∧ (call.run .strict).log = [.rejecting field (call.value field) field.width]
            ∧ (call.run .strict).log.map Event.entry
              = [.rejecting field (call.value field).toNat]
            ∧ ∀ (other : BuilderCall) (rest : List Field),
              other.operandFields = before ++ field :: rest →
              (∀ seen ∈ before ++ [field], other.value seen = call.value seen) →
                other.run .strict = call.run .strict := by
  refine ⟨call.log_run_standard, call.entries_run_standard, fun hfits => ?_,
    fun before field after hsplit hbefore hfield => ?_⟩
  · exact run_of_fits .strict fun field hmem => fits_of_not_tooWide (hfits field hmem)
  · have hrun := run_strict_of_refused hsplit hbefore hfield
    have hentries : (call.run .strict).log.map Event.entry
        = [.rejecting field (call.value field).toNat] := by
      rw [hrun, List.map_singleton, Event.entry_rejecting]
    refine ⟨congrArg Checked.result hrun, congrArg Checked.log hrun, hentries, fun other rest hother hsame => ?_⟩
    have hvalue : other.value field = call.value field := hsame field (by simp)
    have hbefore' : ∀ earlier ∈ before, ¬other.TooWide earlier := by
      intro earlier hearlier
      rw [TooWide, hsame earlier (List.mem_append_left _ hearlier)]
      exact hbefore earlier hearlier
    have hfield' : other.TooWide field := by
      rw [TooWide, hvalue]
      exact hfield
    rw [run_strict_of_refused hother hbefore' hfield', hvalue, hrun]

/-- Of three operands that are too wide the strict encoder names the first, and another call with
the same first register is refused in the same way; the other encoder names all three. -/
theorem log_of_call_is_exact_for_wide_operands :
    (((registerShifted .add 32 2 99 .lsr 64).run .standard).log.map Event.entry
        = [.truncating .rd 32, .truncating .rm 99, .truncating .shiftAmount 64])
      ∧ ((registerShifted .add 32 2 99 .lsr 64).run .strict).log = [.rejecting .rd 32 5]
      ∧ ((registerShifted .add 32 2 99 .lsr 64).run .strict).log.map Event.entry
        = [.rejecting .rd 32]
      ∧ (immediate .svc 32 0 0).run .strict = (registerShifted .add 32 2 99 .lsr 64).run .strict
      ∧ (branch .b 7).run .strict = ⟨.ok (branch .b 7).word, []⟩ := by
  obtain ⟨-, hstandard, -, hstrict⟩ := log_of_call_is_exact (registerShifted .add 32 2 99 .lsr 64)
  obtain ⟨-, hlog, hentries, hagain⟩ :=
    hstrict [] .rd [.rn, .rm, .shiftAmount] rfl (by simp) (by decide)
  refine ⟨hstandard, hlog, hentries, hagain (immediate .svc 32 0 0) [.rn, .immediate] rfl ?_, ?_⟩
  · intro seen hseen
    obtain rfl : seen = .rd := by simpa using hseen
    rfl
  · exact (log_of_call_is_exact (branch .b 7)).2.2.1 (by decide)

end BuilderCall

end WordCodec
