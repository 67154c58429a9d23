import Mathlib.Data.List.TakeWhile
import WordCodec.Json.Text
import WordCodec.Proofs.Json.Grammar

/-!
# Reading texts

`readText` reads exactly the texts of the grammar: what is written between quotes for a text is read
as that text (`readText_append`), and whatever it reads was written for what it returns
(`exists_of_readText`).  `skipText` accepts more, since a surrogate may stand alone there, but never
disagrees about where a text ends (`skipText_of_readText`).

An escape is followed down to its hexadecimal digits, `hexDigit?_eq_some_iff`; above them everything
is a matter of taking the characters of the text one by one.
-/

namespace WordCodec.Json

/-- Where two readers stand one behind the other, both have to go through. -/
lemma exists_of_bind_eq_ok {α β : Type} {x : Except Error α} {next : α → Except Error β} {b : β}
    (h : x >>= next = .ok b) : ∃ a, x = .ok a ∧ next a = .ok b := by
  cases x with
  | error e => cases h
  | ok a => exact ⟨a, rfl, h⟩

/-! ## Blanks -/

lemma isBlank_iff {c : Char} : isBlank c = true ↔ c ∈ [' ', '\t', '\n', '\r'] := by
  simp [isBlank, or_assoc]

lemma blank_nil : Blank [] := by
  intro c hc
  cases hc

lemma Blank.isBlank {w : List Char} (hw : Blank w) : ∀ c ∈ w, isBlank c = true := by
  intro c hc
  exact isBlank_iff.mpr (hw c hc)

lemma Blank.append {w w' : List Char} (hw : Blank w) (hw' : Blank w') : Blank (w ++ w') := by
  intro c hc
  rcases List.mem_append.mp hc with hc | hc
  · exact hw c hc
  · exact hw' c hc

@[simp] lemma skipBlanks_append {w : List Char} (hw : Blank w) (cs : List Char) :
    skipBlanks (w ++ cs) = skipBlanks cs := by
  induction w with
  | nil => rfl
  | cons c w ih =>
      have hc : isBlank c = true := hw.isBlank c List.mem_cons_self
      have hrest : Blank w := fun d hd => hw d (List.mem_cons_of_mem _ hd)
      simpa [skipBlanks, hc] using ih hrest

lemma skipBlanks_cons {c : Char} (hc : isBlank c = false) (cs : List Char) :
    skipBlanks (c :: cs) = c :: cs := by
  simp [skipBlanks, hc]

lemma skipBlanks_blank {w : List Char} (hw : Blank w) : skipBlanks w = [] := by
  have h := skipBlanks_append hw []
  rwa [List.append_nil] at h

lemma exists_blank_append (cs : List Char) : ∃ w, Blank w ∧ cs = w ++ skipBlanks cs := by
  refine ⟨cs.takeWhile isBlank, ?_, List.takeWhile_append_dropWhile.symm⟩
  intro c hc
  exact isBlank_iff.mp (List.mem_takeWhile_imp hc)

lemma exists_of_skipBlanks {cs tail : List Char} (h : skipBlanks cs = tail) :
    ∃ w, Blank w ∧ cs = w ++ tail := by
  subst h
  exact exists_blank_append cs

lemma Padded.refl (s : List Char) : Padded s s := by
  have h := Padded.blanks (s := s) blank_nil blank_nil
  rwa [List.nil_append, List.append_nil] at h

lemma colon_append {w : List Char} (hw : Blank w) (rest : List Char) :
    colon (w ++ ':' :: rest) = .ok rest := by
  simp [colon, hw, skipBlanks_cons (c := ':') (by decide)]

lemma exists_of_colon {cs rest : List Char} (h : colon cs = .ok rest) :
    ∃ w, Blank w ∧ cs = w ++ ':' :: rest := by
  rw [colon] at h
  split at h
  · cases h
  · rename_i hskip
    cases h
    exact exists_of_skipBlanks hskip
  · cases h

/-! ## Escapes -/

instance (d : ℕ) (c : Char) : Decidable (HexDigit d c) := inferInstanceAs (Decidable (_ ∧ _))

lemma hexDigit?_eq_some_iff {c : Char} {d : ℕ} : hexDigit? c = some d ↔ HexDigit d c := by
  constructor
  · intro h
    have hall : ∀ n < 128, ∀ d ∈ hexDigit? (Char.ofNat n), HexDigit d (Char.ofNat n) := by
      decide +kernel
    have hascii : c.toNat < 128 := by
      rw [hexDigit?] at h
      split_ifs at h with hdigit hlower hupper
      · exact lt_of_le_of_lt hdigit.2 (by decide)
      · exact lt_of_le_of_lt hlower.2 (by decide)
      · exact lt_of_le_of_lt hupper.2 (by decide)
    have hd := hall c.toNat hascii
    rw [Char.ofNat_toNat] at hd
    exact hd d h
  · have hall : ∀ d < 16, hexDigit? (Nat.digitChar d) = some d
        ∧ hexDigit? (Nat.digitChar d).toUpper = some d := by decide
    rintro ⟨hd, rfl | rfl⟩
    · exact (hall d hd).1
    · exact (hall d hd).2

lemma hexUnit_append {unit : ℕ} {digits : List Char} (h : HexUnit unit digits) (rest : List Char) :
    hexUnit (digits ++ rest) = .ok (unit, rest) := by
  obtain ⟨ha, hb, hc, hd⟩ := h
  simp only [List.cons_append, List.nil_append, hexUnit, hexDigit?_eq_some_iff.mpr ha,
    hexDigit?_eq_some_iff.mpr hb, hexDigit?_eq_some_iff.mpr hc, hexDigit?_eq_some_iff.mpr hd]

lemma exists_of_hexUnit {cs rest : List Char} {unit : ℕ} (h : hexUnit cs = .ok (unit, rest)) :
    ∃ digits, HexUnit unit digits ∧ cs = digits ++ rest := by
  match cs with
  | [] | [_] | [_, _] | [_, _, _] => simp [hexUnit] at h
  | w :: x :: y :: z :: tail =>
      simp only [hexUnit] at h
      split at h
      · rename_i a b c d ha hb hc hd
        cases h
        exact ⟨[w, x, y, z], .digits (hexDigit?_eq_some_iff.mp ha) (hexDigit?_eq_some_iff.mp hb)
          (hexDigit?_eq_some_iff.mp hc) (hexDigit?_eq_some_iff.mp hd), rfl⟩
      · cases h

lemma HexUnit.lt {unit : ℕ} {digits : List Char} (h : HexUnit unit digits) : unit < 0x10000 := by
  obtain ⟨⟨ha, -⟩, ⟨hb, -⟩, ⟨hc, -⟩, ⟨hd, -⟩⟩ := h
  omega

/-! ## Characters -/

lemma toNat_ofNat {n : ℕ} (h : n.isValidChar) : (Char.ofNat n).toNat = n := by
  rw [Char.ofNat, dif_pos h]
  rfl

lemma isHighSurrogate_iff {unit : ℕ} :
    isHighSurrogate unit = true ↔ 0xD800 ≤ unit ∧ unit ≤ 0xDBFF := by
  rw [isHighSurrogate, Bool.and_eq_true, decide_eq_true_iff, decide_eq_true_iff]

lemma isLowSurrogate_iff {unit : ℕ} :
    isLowSurrogate unit = true ↔ 0xDC00 ≤ unit ∧ unit ≤ 0xDFFF := by
  rw [isLowSurrogate, Bool.and_eq_true, decide_eq_true_iff, decide_eq_true_iff]

/-- A character has one code unit, which is no surrogate, or a pair of surrogates. -/
lemma codeUnits_cases (c : Char) :
    (codeUnits c = [c.toNat] ∧ isLowSurrogate c.toNat = false ∧ isHighSurrogate c.toNat = false)
      ∨ ∃ high low, codeUnits c = [high, low] ∧ isLowSurrogate high = false
        ∧ isHighSurrogate high = true ∧ isLowSurrogate low = true
        ∧ pairedSurrogates high low = c.toNat := by
  have hvalid : c.toNat < 0xD800 ∨ 0xDFFF < c.toNat ∧ c.toNat < 0x110000 := c.valid
  simp only [← Bool.not_eq_true, isHighSurrogate_iff, isLowSurrogate_iff]
  by_cases hlt : c.toNat < 0x10000
  · exact .inl ⟨if_pos hlt, by omega, by omega⟩
  · refine .inr ⟨0xD800 + (c.toNat - 0x10000) / 0x400, 0xDC00 + (c.toNat - 0x10000) % 0x400,
      if_neg hlt, by omega, by omega, by omega, ?_⟩
    unfold pairedSurrogates
    omega

lemma codeUnits_pairedSurrogates {high low : ℕ} (hhigh : isHighSurrogate high = true)
    (hlow : isLowSurrogate low = true) :
    codeUnits (Char.ofNat (pairedSurrogates high low)) = [high, low] := by
  rw [isHighSurrogate_iff] at hhigh
  rw [isLowSurrogate_iff] at hlow
  have hpair : pairedSurrogates high low = 0x10000 + (high - 0xD800) * 0x400 + (low - 0xDC00) := rfl
  have hvalid : (pairedSurrogates high low).isValidChar := .inr ⟨by omega, by omega⟩
  have hhigh' : 0xD800 + (pairedSurrogates high low - 0x10000) / 0x400 = high := by omega
  have hlow' : 0xDC00 + (pairedSurrogates high low - 0x10000) % 0x400 = low := by omega
  rw [codeUnits, toNat_ofNat hvalid, if_neg (by omega), hhigh', hlow']

/-- A character by its code is read from the digits of its code units. -/
lemma escape_coded {c : Char} {units : List (List Char)}
    (h : List.Forall₂ HexUnit (codeUnits c) units) (rest : List Char) :
    ∃ cs, (units.flatMap fun unit => '\\' :: 'u' :: unit) ++ rest = '\\' :: cs
      ∧ escape cs = .ok (c, rest) := by
  rcases codeUnits_cases c with ⟨hunits, hlow, hhigh⟩ | ⟨high, low, hunits, hnot, hhigh, hlow, hpair⟩
  · rw [hunits] at h
    obtain _ | ⟨hdigits, hnil⟩ := h
    cases hnil
    refine ⟨_, rfl, ?_⟩
    simp [escape, codeEscape, hexUnit_append hdigits, hlow, hhigh, bind, Except.bind]
  · rw [hunits] at h
    obtain _ | ⟨hdigits, h⟩ := h
    obtain _ | ⟨hdigits', hnil⟩ := h
    cases hnil
    refine ⟨_, rfl, ?_⟩
    simp [escape, codeEscape, finishPair, hexUnit_append hdigits, hexUnit_append hdigits', hnot,
      hhigh, hlow, hpair, bind, Except.bind]

/-- What an escape by code stands for is written that way. -/
lemma exists_of_codeEscape {cs rest : List Char} {c : Char} (h : codeEscape cs = .ok (c, rest)) :
    ∃ units, List.Forall₂ HexUnit (codeUnits c) units
      ∧ '\\' :: 'u' :: cs = (units.flatMap fun unit => '\\' :: 'u' :: unit) ++ rest := by
  rw [codeEscape] at h
  obtain ⟨⟨unit, after⟩, hunit, hnext⟩ := exists_of_bind_eq_ok h
  obtain ⟨digits, hdigits, rfl⟩ := exists_of_hexUnit hunit
  have hlt := hdigits.lt
  dsimp only at hnext
  split_ifs at hnext with hlow hhigh
  · rw [finishPair.eq_def] at hnext
    split at hnext
    · cases hnext
    · cases hnext
    · obtain ⟨⟨unit', after'⟩, hunit', hpair⟩ := exists_of_bind_eq_ok hnext
      obtain ⟨digits', hdigits', rfl⟩ := exists_of_hexUnit hunit'
      dsimp only at hpair
      split_ifs at hpair with hlow'
      obtain ⟨rfl, rfl⟩ := Prod.mk.inj (Except.ok.inj hpair)
      refine ⟨[digits, digits'], ?_, by simp⟩
      rw [codeUnits_pairedSurrogates hhigh hlow']
      exact .cons hdigits (.cons hdigits' .nil)
    · cases hnext
  · obtain ⟨rfl, rfl⟩ := Prod.mk.inj (Except.ok.inj hnext)
    refine ⟨[digits], ?_, by simp⟩
    have hvalid : unit.isValidChar := by
      simp only [isLowSurrogate_iff, isHighSurrogate_iff] at hlow hhigh
      rw [Nat.isValidChar]
      omega
    rw [codeUnits, toNat_ofNat hvalid, if_pos hlt]
    exact .cons hdigits .nil

lemma letterEscape?_eq_some_iff {letter c : Char} :
    letterEscape? letter = some c ↔ (letter, c) ∈ shortEscapes := by
  constructor
  · intro h
    unfold letterEscape? at h
    split at h <;> cases h <;> decide
  · intro h
    have hall : ∀ pair ∈ shortEscapes, letterEscape? pair.1 = some pair.2 := by decide
    exact hall (letter, c) h

lemma escape_short {letter c : Char} (h : (letter, c) ∈ shortEscapes) (rest : List Char) :
    escape (letter :: rest) = .ok (c, rest) := by
  have hu : letter ≠ 'u' := by
    have hall : ∀ pair ∈ shortEscapes, pair.1 ≠ 'u' := by decide
    exact hall (letter, c) h
  rw [escape, letterEscape?_eq_some_iff.mpr h]
  exact hu

/-- What an escape stands for is written that way. -/
lemma charWritten_of_escape {cs rest : List Char} {c : Char} (h : escape cs = .ok (c, rest)) :
    ∃ s, CharWritten c s ∧ '\\' :: cs = s ++ rest := by
  rw [escape.eq_def] at h
  split at h
  · cases h
  · obtain ⟨units, hunits, hcs⟩ := exists_of_codeEscape h
    exact ⟨_, .coded hunits, hcs⟩
  · rename_i letter tail hu
    cases hletter : letterEscape? letter with
    | none => simp [hletter] at h
    | some escaped =>
        simp only [hletter, Except.ok.injEq, Prod.mk.injEq] at h
        obtain ⟨rfl, rfl⟩ := h
        exact ⟨_, .short (letterEscape?_eq_some_iff.mp hletter), rfl⟩

/-! ## Whole texts -/

lemma readTextAfter_plain {c : Char} (hc : ' ' ≤ c) (hquote : c ≠ '"') (hback : c ≠ '\\')
    (before rest : List Char) :
    readTextAfter before (c :: rest) = readTextAfter (c :: before) rest := by
  rw [readTextAfter, if_neg (Char.not_lt.mpr hc)]
  · exact hquote
  · exact hback

lemma readTextAfter_escape {cs rest : List Char} {c : Char} (h : escape cs = .ok (c, rest))
    (before : List Char) :
    readTextAfter before ('\\' :: cs) = readTextAfter (c :: before) rest := by
  rw [readTextAfter]
  split
  · simp_all
  · rename_i hescape
    rw [h] at hescape
    obtain ⟨rfl, rfl⟩ := Prod.mk.inj (Except.ok.inj hescape)
    rfl

lemma readTextAfter_append {text body : List Char} (h : TextWritten text body)
    (before rest : List Char) :
    readTextAfter before (body ++ '"' :: rest) = .ok (before.reverse ++ text, rest) := by
  induction h generalizing before with
  | nil => simp [readTextAfter]
  | @cons c text s body hc _ ih =>
      have hstep : readTextAfter before (s ++ (body ++ '"' :: rest))
          = readTextAfter (c :: before) (body ++ '"' :: rest) := by
        cases hc with
        | plain hc hquote hback => exact readTextAfter_plain hc hquote hback before _
        | short hletter => exact readTextAfter_escape (escape_short hletter _) before
        | coded hunits =>
            obtain ⟨cs, hcs, hescape⟩ := escape_coded hunits (body ++ '"' :: rest)
            rw [hcs]
            exact readTextAfter_escape hescape before
      rw [List.append_assoc, hstep, ih]
      simp

/-- **What is written for a text is read as that text.** -/
lemma readText_append {text : String} {body : List Char} (h : TextKey text body)
    (rest : List Char) : readText (body ++ '"' :: rest) = .ok (text, rest) := by
  rw [readText, readTextAfter_append h]
  simp [bind, Except.bind]

/-- **A text that is read was written for what is returned.** -/
lemma exists_of_readText {cs rest : List Char} {text : String}
    (h : readText cs = .ok (text, rest)) :
    ∃ body, TextKey text body ∧ cs = body ++ '"' :: rest := by
  have hafter : ∀ (before cs chars rest : List Char), readTextAfter before cs = .ok (chars, rest) →
      ∃ text body, TextWritten text body ∧ chars = before.reverse ++ text
        ∧ cs = body ++ '"' :: rest := by
    intro before cs
    fun_induction readTextAfter before cs with
    | case1 before => simp
    | case2 before tail =>
        intro chars rest h
        obtain ⟨rfl, rfl⟩ := Prod.mk.inj (Except.ok.inj h)
        exact ⟨[], [], .nil, by simp, rfl⟩
    | case3 => simp
    | case4 before tail c tail' hescape hlength ih =>
        intro chars rest h
        obtain ⟨text, body, hbody, rfl, rfl⟩ := ih chars rest h
        obtain ⟨s, hs, hcs⟩ := charWritten_of_escape hescape
        exact ⟨c :: text, s ++ body, .cons hs hbody, by simp, by simp [hcs]⟩
    | case5 => simp
    | case6 before c tail hquote hback hc ih =>
        intro chars rest h
        obtain ⟨text, body, hbody, rfl, rfl⟩ := ih chars rest h
        have hplain : CharWritten c [c] := .plain (Char.not_lt.mp hc) hquote hback
        exact ⟨c :: text, [c] ++ body, .cons hplain hbody, by simp, by simp⟩
  obtain ⟨⟨chars, after⟩, hread, hnext⟩ := exists_of_bind_eq_ok h
  obtain ⟨text', body, hbody, rfl, rfl⟩ := hafter [] cs chars after hread
  obtain ⟨rfl, rfl⟩ := Prod.mk.inj (Except.ok.inj hnext)
  refine ⟨body, ?_, rfl⟩
  rw [TextKey]
  simpa using hbody

/-! ## Texts that nobody asks for -/

lemma skipText_plain {c : Char} (hc : ' ' ≤ c) (hquote : c ≠ '"') (hback : c ≠ '\\')
    (rest : List Char) : skipText (c :: rest) = skipText rest := by
  rw [skipText, if_neg (Char.not_lt.mpr hc)]
  · exact hquote
  · exact hback

lemma skipText_escape {cs rest : List Char} (h : skipEscape cs = .ok rest) :
    skipText ('\\' :: cs) = skipText rest := by
  rw [skipText]
  split
  · simp_all
  · rename_i hescape
    rw [h] at hescape
    cases hescape
    rfl

lemma IsText.coded_append {codes : List ℕ} {units : List (List Char)} {s : List Char}
    (h : List.Forall₂ HexUnit codes units) (hs : IsText s) :
    IsText ((units.flatMap fun unit => '\\' :: 'u' :: unit) ++ s) := by
  induction h with
  | nil => exact hs
  | cons hdigits _ ih =>
      rw [List.flatMap_cons, List.append_assoc]
      exact .coded hdigits ih

/-- What is written for a text is a text of any form. -/
lemma TextWritten.isText {text body : List Char} (h : TextWritten text body) : IsText body := by
  induction h with
  | nil => exact .nil
  | cons hc _ ih =>
      cases hc with
      | plain hc hquote hback => exact .plain hc hquote hback ih
      | short hletter => exact .short hletter ih
      | coded hunits => exact .coded_append hunits ih

/-- Whatever stands between quotes is skipped. -/
lemma skipText_append {body : List Char} (h : IsText body) (rest : List Char) :
    skipText (body ++ '"' :: rest) = .ok rest := by
  induction h with
  | nil => rw [List.nil_append, skipText]
  | plain hc hquote hback _ ih => rw [List.cons_append, skipText_plain hc hquote hback, ih]
  | @short letter c s hletter _ ih =>
      have hu : letter ≠ 'u' := by
        have hall : ∀ pair ∈ shortEscapes, pair.1 ≠ 'u' := by decide
        exact hall (letter, c) hletter
      have hescape : skipEscape (letter :: (s ++ '"' :: rest)) = .ok (s ++ '"' :: rest) := by
        rw [skipEscape, letterEscape?_eq_some_iff.mpr hletter]
        · rfl
        · exact hu
      rw [List.cons_append, List.cons_append, skipText_escape hescape, ih]
  | @coded unit digits s hdigits _ ih =>
      have hescape : skipEscape ('u' :: (digits ++ (s ++ '"' :: rest)))
          = .ok (s ++ '"' :: rest) := by
        simp [skipEscape, hexUnit_append hdigits, bind, Except.bind]
      rw [List.cons_append, List.cons_append, List.append_assoc, skipText_escape hescape, ih]

/-- **A text that is read is skipped alike.** -/
lemma skipText_of_readText {cs rest : List Char} {text : String}
    (h : readText cs = .ok (text, rest)) : skipText cs = .ok rest := by
  obtain ⟨body, hbody, rfl⟩ := exists_of_readText h
  exact skipText_append hbody.isText rest

end WordCodec.Json
