import Mathlib.Tactic
import WordCodec.Json.Literal
import WordCodec.Proofs.Json.Texts

/-!
# Reading numbers

A literal is read up to the first character that cannot continue it.  So the lemmas here speak of a
literal with a rest behind it that begins with nothing of the kind, `EndsNumber`.

* `scanLiteral_append` — a literal of the grammar is read part by part.
* `literalWritten_decimal` — a natural number in decimal is such a literal, and `readNumber_decimal`
  reads it back if it fits a word.
-/

namespace WordCodec.Json

/-- Whether a number that stands before the text ends there. -/
def EndsNumber (cs : List Char) : Prop := ∀ c ∈ cs.head?, c.isDigit = false ∧ c ∉ ['.', 'e', 'E']

lemma endsNumber_nil : EndsNumber [] := by
  intro c hc
  simp at hc

lemma endsNumber_cons {c : Char} (hc : c.isDigit = false ∧ c ∉ ['.', 'e', 'E']) (cs : List Char) :
    EndsNumber (c :: cs) := by
  intro d hd
  obtain rfl : c = d := by simpa using hd
  exact hc

/-- Blanks make no difference to where a number ends. -/
lemma endsNumber_blank_append {w rest : List Char} (hw : Blank w) (h : EndsNumber rest) :
    EndsNumber (w ++ rest) := by
  cases w with
  | nil => exact h
  | cons c w =>
      refine endsNumber_cons ?_ _
      have hc := hw c List.mem_cons_self
      fin_cases hc <;> decide

/-! ## The parts of a literal -/

variable {ds rest : List Char}

/-- A run of digits is read up to the first other character. -/
lemma someDigits_append (hds : Digits ds) (hrest : ∀ c ∈ rest.head?, c.isDigit = false) :
    someDigits (ds ++ rest) = .ok (ds, rest) := by
  obtain ⟨hne, hall⟩ := hds
  cases ds with
  | nil => contradiction
  | cons c ds =>
      rw [List.forall_mem_cons] at hall
      have htake : rest.takeWhile Char.isDigit = [] := by
        cases rest with
        | nil => rfl
        | cons d rest => simp [hrest d rfl]
      have hdrop : rest.dropWhile Char.isDigit = rest := by
        cases rest with
        | nil => rfl
        | cons d rest => simp [hrest d rfl]
      rw [List.cons_append, someDigits, if_pos hall.1, List.takeWhile_append_of_pos hall.2,
        List.dropWhile_append_of_pos hall.2, htake, hdrop, List.append_nil]

/-- Digits without a leading zero are read as the digits before the point. -/
lemma wholeDigits_append (hds : Digits ds) (hzero : ds.head? = some '0' → ds = ['0'])
    (hrest : ∀ c ∈ rest.head?, c.isDigit = false) : wholeDigits (ds ++ rest) = .ok (ds, rest) := by
  by_cases h : ds.head? = some '0'
  · obtain rfl := hzero h
    cases rest with
    | nil => rfl
    | cons c rest => simp [wholeDigits, hrest c rfl]
  · rw [wholeDigits, someDigits_append hds hrest]
    rintro c tail hcs
    obtain ⟨d, ds, rfl⟩ := List.exists_cons_of_ne_nil hds.1
    rw [List.cons_append] at hcs
    exact h (by rw [(List.cons.inj hcs).1, List.head?_cons])

lemma fractionDigits_append {fraction : List Char}
    (h : ds = [] ∧ fraction = [] ∨ Digits ds ∧ fraction = '.' :: ds)
    (hrest : ∀ c ∈ rest.head?, c.isDigit = false ∧ c ≠ '.') :
    fractionDigits (fraction ++ rest) = .ok (ds, rest) := by
  rcases h with ⟨rfl, rfl⟩ | ⟨hds, rfl⟩
  · rw [List.nil_append, fractionDigits]
    rintro tail rfl
    exact (hrest '.' rfl).2 rfl
  · exact someDigits_append hds fun c hc => (hrest c hc).1

/-- An exponent is read with its sign, or without one. -/
lemma signedExponent_append {value : ℤ} {s : List Char} (h : ExponentWritten value s)
    (hrest : ∀ c ∈ rest.head?, c.isDigit = false) :
    signedExponent (s ++ rest) = .ok (value, rest) := by
  cases h with
  | plus hds => simp [signedExponent, someDigits_append hds hrest, bind, Except.bind]
  | minus hds => simp [signedExponent, someDigits_append hds hrest, bind, Except.bind]
  | bare hds =>
      have hdigits := someDigits_append hds hrest
      obtain ⟨hne, hall⟩ := hds
      obtain ⟨d, ds, rfl⟩ := List.exists_cons_of_ne_nil hne
      have hd : d.isDigit = true := hall d List.mem_cons_self
      rw [signedExponent, hdigits]
      · rfl
      · rintro tail hcs
        rw [(List.cons.inj hcs).1] at hd
        exact absurd hd (by decide)
      · rintro tail hcs
        rw [(List.cons.inj hcs).1] at hd
        exact absurd hd (by decide)

lemma exponentPart_append {exponent : Option ℤ} {s : List Char}
    (h : exponent = none ∧ s = []
      ∨ ∃ value letter t, exponent = some value ∧ letter ∈ ['e', 'E'] ∧ ExponentWritten value t
        ∧ s = letter :: t)
    (hrest : EndsNumber rest) : exponentPart (s ++ rest) = .ok (exponent, rest) := by
  rcases h with ⟨rfl, rfl⟩ | ⟨value, letter, t, rfl, hletter, ht, rfl⟩
  · cases rest with
    | nil => rfl
    | cons c rest =>
        have hc := (hrest c rfl).2
        simp only [List.mem_cons, List.not_mem_nil, or_false, not_or] at hc
        rw [List.nil_append, exponentPart, if_neg (by simp [hc])]
  · have hletter' : letter = 'e' ∨ letter = 'E' := by simpa using hletter
    have hexponent := signedExponent_append ht fun c hc => (hrest c hc).1
    simp [exponentPart, hletter', hexponent, bind, Except.bind]

lemma minusSign_append {negative : Bool} {sign : List Char}
    (hsign : sign = if negative then ['-'] else []) (hds : Digits ds) :
    minusSign (sign ++ (ds ++ rest)) = (negative, ds ++ rest) := by
  subst hsign
  cases negative with
  | true => rfl
  | false =>
      obtain ⟨hne, hall⟩ := hds
      obtain ⟨d, ds, rfl⟩ := List.exists_cons_of_ne_nil hne
      have hd : d ≠ '-' := by
        rintro rfl
        exact absurd (hall '-' List.mem_cons_self) (by decide)
      simp [minusSign, hd]

/-- **A literal of the grammar is read whole.** -/
lemma scanLiteral_append {literal : Literal} {s : List Char} (h : LiteralWritten literal s)
    (hrest : EndsNumber rest) : scanLiteral (s ++ rest) = .ok (literal, rest) := by
  obtain ⟨negative, whole, fraction, exponent⟩ := literal
  obtain @⟨sign, point, tail, hsign, hwhole, hzero, hfraction, hexponent⟩ := h
  -- What follows a part may continue it only with the character that starts the next part.
  have htail : ∀ c ∈ (tail ++ rest).head?, c.isDigit = false ∧ c ≠ '.' := by
    intro c hc
    rcases hexponent with ⟨-, rfl⟩ | ⟨value, letter, t, -, hletter, -, rfl⟩
    · obtain ⟨hdigit, hmem⟩ := hrest c hc
      exact ⟨hdigit, by rintro rfl; exact hmem List.mem_cons_self⟩
    · obtain rfl : letter = c := by simpa using hc
      fin_cases hletter <;> decide
  have hpoint : ∀ c ∈ (point ++ (tail ++ rest)).head?, c.isDigit = false := by
    intro c hc
    rcases hfraction with ⟨-, rfl⟩ | ⟨-, rfl⟩
    · exact (htail c hc).1
    · obtain rfl : '.' = c := by simpa using hc
      rfl
  simp only [List.append_assoc, scanLiteral, minusSign_append hsign hwhole,
    wholeDigits_append hwhole hzero hpoint, fractionDigits_append hfraction htail,
    exponentPart_append hexponent hrest, bind, Except.bind]

/-! ## Natural numbers -/

lemma digits_decimal (n : ℕ) : Digits (Nat.toDigits 10 n) := by
  refine ⟨?_, fun c hc => Nat.isDigit_of_mem_toDigits (by decide) (by decide) hc⟩
  exact List.ne_nil_of_length_pos Nat.length_toDigits_pos

/-- A number in decimal has no leading zero. -/
lemma head?_decimal {n : ℕ} (hn : n ≠ 0) : (Nat.toDigits 10 n).head? ≠ some '0' := by
  induction n using Nat.strong_induction_on with
  | _ n ih =>
      rcases lt_or_ge n 10 with hlt | hge
      · have hall : ∀ d < 10, d ≠ 0 → [Nat.digitChar d].head? ≠ some '0' := by decide
        rw [Nat.toDigits_of_lt_base hlt]
        exact hall n hlt hn
      · have hquotient : (Nat.toDigits 10 (n / 10)).head? ≠ some '0' := ih _ (by omega) (by omega)
        rw [Nat.toDigits_of_base_le (by decide) hge,
          List.head?_append_of_ne_nil _ (digits_decimal (n / 10)).1]
        exact hquotient

/-- A number in decimal is a literal of the grammar. -/
lemma literalWritten_decimal (n : ℕ) :
    LiteralWritten ⟨false, Nat.toDigits 10 n, [], none⟩ (Nat.toDigits 10 n) := by
  have hzero : (Nat.toDigits 10 n).head? = some '0' → Nat.toDigits 10 n = ['0'] := by
    intro h
    by_cases hn : n = 0
    · rw [hn, Nat.toDigits_zero]
    · exact absurd h (head?_decimal hn)
  have h : LiteralWritten ⟨false, Nat.toDigits 10 n, [], none⟩
      ([] ++ (Nat.toDigits 10 n ++ ([] ++ []))) :=
    .parts rfl (digits_decimal n) hzero (.inl ⟨rfl, rfl⟩) (.inl ⟨rfl, rfl⟩)
  simpa using h

/-- **A number in decimal is read as itself**, up to the largest of a word. -/
lemma readNumber_decimal {n : ℕ} (hn : n < UInt64.size) (hrest : EndsNumber rest) :
    readNumber (Nat.toDigits 10 n ++ rest) = .ok (.integer n, rest) := by
  have hvalue : digitsValue (Nat.toDigits 10 n) = n :=
    Nat.ofDigitChars_toDigits (by decide) (by decide)
  rw [readNumber, scanLiteral_append (literalWritten_decimal n) hrest]
  simp [Literal.value, Literal.integer?, hvalue, hn, bind, Except.bind]

end WordCodec.Json
