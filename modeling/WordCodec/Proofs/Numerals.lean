import Mathlib.Tactic
import WordCodec.Error

/-!
# Numerals say which number they stand for

Two numbers with the same numeral are equal, whatever the style.  All styles come down to
`Nat.toDigits`, whose last digit is a remainder and whose other digits are those of the quotient,
so one induction on the number serves decimal and hexadecimal alike (`toDigits_injective`); it
needs nothing of the sixteen digits but that they differ.

* `decimal_inj`, `signedDecimal_inj`, `hex_inj` — one for each style.
* `opcodeText_eq` — an opcode of twelve bits is shown by exactly three digits.
-/

namespace WordCodec.Numeral

/-! ## Digits -/

lemma digitChar_inj {d d' : ℕ} (hd : d < 16) (hd' : d' < 16)
    (h : Nat.digitChar d = Nat.digitChar d') : d = d' := by
  have hall : ∀ d < 16, ∀ d' < 16, Nat.digitChar d = Nat.digitChar d' → d = d' := by decide
  exact hall d hd d' hd' h

variable {base : ℕ}

lemma toDigits_injective (hbase : 1 < base) (hsixteen : base ≤ 16) :
    ∀ {m n : ℕ}, Nat.toDigits base m = Nat.toDigits base n → m = n := by
  intro m
  induction m using Nat.strong_induction_on with
  | _ m ih =>
      intro n h
      rcases lt_or_ge m base with hm | hm <;> rcases lt_or_ge n base with hn | hn
      · rw [Nat.toDigits_of_lt_base hm, Nat.toDigits_of_lt_base hn] at h
        exact digitChar_inj (by omega) (by omega) (List.singleton_inj.mp h)
      · rw [Nat.toDigits_of_lt_base hm, Nat.toDigits_of_base_le hbase hn] at h
        have hlength := congrArg List.length h
        simp [Nat.toDigits_ne_nil] at hlength
      · rw [Nat.toDigits_of_base_le hbase hm, Nat.toDigits_of_lt_base hn] at h
        have hlength := congrArg List.length h
        simp [Nat.toDigits_ne_nil] at hlength
      · rw [Nat.toDigits_of_base_le hbase hm, Nat.toDigits_of_base_le hbase hn] at h
        obtain ⟨hquotient, hlast⟩ := List.append_inj' h rfl
        have hdiv : m / base = n / base := ih (m / base) (Nat.div_lt_self (by omega) hbase) hquotient
        have hmod : m % base = n % base := by
          refine digitChar_inj ?_ ?_ (List.singleton_inj.mp hlast)
          · exact lt_of_lt_of_le (Nat.mod_lt m (by omega)) hsixteen
          · exact lt_of_lt_of_le (Nat.mod_lt n (by omega)) hsixteen
        rw [← Nat.div_add_mod m base, hdiv, hmod, Nat.div_add_mod]

lemma exists_digitChar_of_mem_toDigits (hbase : 1 < base) {c : Char} :
    ∀ {n : ℕ}, c ∈ Nat.toDigits base n → ∃ d < base, c = Nat.digitChar d := by
  intro n
  induction n using Nat.strong_induction_on with
  | _ n ih =>
      intro hc
      rcases lt_or_ge n base with hn | hn
      · rw [Nat.toDigits_of_lt_base hn, List.mem_singleton] at hc
        exact ⟨n, hn, hc⟩
      · rw [Nat.toDigits_of_base_le hbase hn, List.mem_append, List.mem_singleton] at hc
        rcases hc with hc | hc
        · exact ih (n / base) (Nat.div_lt_self (by omega) hbase) hc
        · exact ⟨n % base, Nat.mod_lt n (by omega), hc⟩

/-! ## The styles -/

lemma decimal_inj {m n : ℕ} : decimal m = decimal n ↔ m = n := by
  refine ⟨fun h => ?_, congrArg decimal⟩
  exact toDigits_injective (by decide) (by decide) (String.ofList_inj.mp h)

lemma hex_inj {m n : ℕ} : hex m = hex n ↔ m = n := by
  refine ⟨fun h => ?_, congrArg hex⟩
  rw [hex, hex, String.append_right_inj, String.ofList_inj] at h
  exact toDigits_injective (by decide) (by decide) h

/-- A decimal numeral does not begin with a minus sign. -/
lemma decimal_ne_minus_append (n : ℕ) (text : String) : decimal n ≠ "-" ++ text := by
  intro h
  have hmem : '-' ∈ Nat.toDigits 10 n := by
    have hlist : Nat.toDigits 10 n = '-' :: text.toList := by
      simpa [decimal] using congrArg String.toList h
    rw [hlist]
    exact List.mem_cons_self
  have hdigit := Nat.isDigit_of_mem_toDigits (by decide) (by decide) hmem
  exact absurd hdigit (by decide)

lemma signedDecimal_inj {i j : ℤ} : signedDecimal i = signedDecimal j ↔ i = j := by
  refine ⟨fun h => ?_, congrArg signedDecimal⟩
  cases i with
  | ofNat m =>
      cases j with
      | ofNat n => rw [decimal_inj.mp h]
      | negSucc n => exact absurd h (decimal_ne_minus_append m _)
  | negSucc m =>
      cases j with
      | ofNat n => exact absurd h.symm (decimal_ne_minus_append n _)
      | negSucc n =>
          rw [signedDecimal, signedDecimal, String.append_right_inj, decimal_inj] at h
          rw [Nat.succ.inj h]

/-- The three hexadecimal digits of a number below 4096. -/
def threeDigits (n : ℕ) : List Char :=
  [Nat.digitChar (n / 256), Nat.digitChar (n / 16 % 16), Nat.digitChar (n % 16)]

/-- Below 4096 the padding fills up to three digits, neither more nor less. -/
lemma paddedHex_three {n : ℕ} (h : n < 4096) :
    paddedHex 3 n = "0x" ++ String.ofList (threeDigits n) := by
  have hdigits : List.replicate (3 - (Nat.toDigits 16 n).length) '0' ++ Nat.toDigits 16 n
      = threeDigits n := by
    have hzero : Nat.digitChar 0 = '0' := rfl
    rcases lt_or_ge n 16 with hsmall | hlarge
    · have hhigh : n / 256 = 0 ∧ n / 16 % 16 = 0 ∧ n % 16 = n := by omega
      rw [Nat.toDigits_of_lt_base hsmall, threeDigits, hhigh.1, hhigh.2.1, hhigh.2.2, hzero]
      rfl
    rw [Nat.toDigits_of_base_le (by decide) hlarge]
    rcases lt_or_ge (n / 16) 16 with hsmall | hlarge
    · have hhigh : n / 256 = 0 ∧ n / 16 % 16 = n / 16 := by omega
      rw [Nat.toDigits_of_lt_base hsmall, threeDigits, hhigh.1, hhigh.2, hzero]
      rfl
    · have hhigh : n / 16 / 16 = n / 256 ∧ n / 16 / 16 < 16 := by omega
      rw [Nat.toDigits_of_base_le (by decide) hlarge, Nat.toDigits_of_lt_base hhigh.2, hhigh.1]
      rfl
  rw [paddedHex, hdigits]

end WordCodec.Numeral

namespace WordCodec

/-- An opcode of twelve bits is shown by exactly three digits. -/
lemma opcodeText_eq {opcode : UInt16} (h : opcode ≤ 0xFFF) :
    opcodeText opcode = "0x" ++ String.ofList (Numeral.threeDigits opcode.toNat) := by
  have hlt : opcode.toNat < 4096 := Nat.lt_succ_of_le (UInt16.le_iff_toNat_le.mp h)
  exact Numeral.paddedHex_three hlt

lemma opcodeText_inj {opcode opcode' : UInt16} (h : opcode ≤ 0xFFF) (h' : opcode' ≤ 0xFFF)
    (htext : opcodeText opcode = opcodeText opcode') : opcode = opcode' := by
  have hlt : opcode.toNat < 4096 := Nat.lt_succ_of_le (UInt16.le_iff_toNat_le.mp h)
  have hlt' : opcode'.toNat < 4096 := Nat.lt_succ_of_le (UInt16.le_iff_toNat_le.mp h')
  rw [opcodeText_eq h, opcodeText_eq h', String.append_right_inj, String.ofList_inj,
    Numeral.threeDigits, Numeral.threeDigits] at htext
  obtain ⟨hhigh, hmiddle, hlow⟩ : _ ∧ _ ∧ _ := by simpa using htext
  have hhigh := Numeral.digitChar_inj (by omega) (by omega) hhigh
  have hmiddle := Numeral.digitChar_inj (by omega) (by omega) hmiddle
  have hlow := Numeral.digitChar_inj (by omega) (by omega) hlow
  refine UInt16.toNat_inj.mp ?_
  omega

end WordCodec
