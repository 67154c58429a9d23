import Mathlib.Tactic
import WordCodec.Json.Choice
import WordCodec.Proofs.Json.Skipping

/-!
# Reading scalars and choices

What a reader has to do with a way of writing is one of four things.

* `Takes` — it reads one value from everything that is written for it.
* `Refuses` — it reads nothing from what is written so.
* `Agrees` — whatever it reads, it leaves the same rest as skipping would.
* `Sound` — whatever it reads is written for the value it returns.

`Form.Shows` says of a form that its values are scalars: each is read however its scalar is written,
and is printed in one of these ways.  Numbers, truth values and names have such forms.  A choice is
followed into what stands behind the letter of its variant (`TagWritten`).
-/

namespace WordCodec.Json

variable {α β : Type} {Written : List Char → Prop} {w rest : List Char}

/-- The reader takes `x` from whatever is written so. -/
def Takes (read : Reader α) (x : α) (Written : List Char → Prop) : Prop :=
  ∀ s w rest, Written s → Blank w → EndsNumber rest → read (w ++ (s ++ rest)) = .ok (x, rest)

/-- The reader takes nothing from what is written so. -/
def Refuses (read : Reader α) (Written : List Char → Prop) : Prop :=
  ∀ s w rest, Written s → Blank w → EndsNumber rest → ∃ e, read (w ++ (s ++ rest)) = .error e

/-- The reader leaves what skipping leaves. -/
def Agrees (read : Reader α) : Prop :=
  ∀ cs x rest, read cs = .ok (x, rest) → skipValue cs = .ok rest

/-- The reader takes nothing but what is written for the value it returns. -/
def Sound (read : Reader α) (Written : α → List Char → Prop) : Prop :=
  ∀ cs x rest, read cs = .ok (x, rest) → ∃ w s, Blank w ∧ Written x s ∧ cs = w ++ (s ++ rest)

/-- The values of a form are scalars. -/
structure Form.Shows (form : Form α) (scalar : α → Scalar) : Prop where
  takes : ∀ x, Takes form.read x (scalar x).Written
  agrees : Agrees form.read
  written : ∀ x, (scalar x).Written (form.write x)

/-! ## Whole texts -/

/-- A value that a form takes from what is written is read from a whole text, with blanks around it.
-/
lemma parse_of_takes {form : Form α} {x : α} (h : Takes form.read x Written) {s : List Char}
    (hs : Written s) {text : String} (htext : Padded s text.toList) : form.parse text = .ok x := by
  rw [Form.parse]
  generalize text.toList = cs at htext
  obtain @⟨w, w', hw, hw'⟩ := htext
  have hrest : EndsNumber w' := by
    rw [← List.append_nil w']
    exact endsNumber_blank_append hw' endsNumber_nil
  simp [h s w w' hs hw hrest, skipBlanks_blank hw', bind, Except.bind]

/-- What a form refuses is refused as a whole text. -/
lemma parse_of_refuses {form : Form α} (h : Refuses form.read Written) {s : List Char}
    (hs : Written s) {text : String} (htext : Padded s text.toList) :
    ∃ e, form.parse text = .error e := by
  rw [Form.parse]
  generalize text.toList = cs at htext
  obtain @⟨w, w', hw, hw'⟩ := htext
  have hrest : EndsNumber w' := by
    rw [← List.append_nil w']
    exact endsNumber_blank_append hw' endsNumber_nil
  obtain ⟨e, he⟩ := h s w w' hs hw hrest
  exact ⟨e, by simp [he, bind, Except.bind]⟩

section Mapped

variable {form : Form α} {toValue : α → β} {ofValue : β → α} {x : α}

/-- A type written in the form of another is read as that one is, value by value. -/
lemma takes_via (h : Takes form.read x Written) :
    Takes (form.via toValue ofValue).read (toValue x) Written := by
  intro s w rest hs hw hrest
  simp [Form.via, h s w rest hs hw hrest, bind, Except.bind]

lemma refuses_via (h : Refuses form.read Written) :
    Refuses (form.via toValue ofValue).read Written := by
  intro s w rest hs hw hrest
  obtain ⟨e, he⟩ := h s w rest hs hw hrest
  exact ⟨e, by simp [Form.via, he, bind, Except.bind]⟩

lemma agrees_via (h : Agrees form.read) : Agrees (form.via toValue ofValue).read := by
  intro cs y rest hy
  obtain ⟨⟨x, after⟩, hread, hy⟩ := exists_of_bind_eq_ok hy
  obtain ⟨rfl, rfl⟩ := Prod.mk.inj (Except.ok.inj hy)
  exact h cs x after hread

end Mapped

/-! ## Numbers, truth values and `null` -/

lemma readFound_blank_append (hw : Blank w) (cs : List Char) :
    readFound (w ++ cs) = readFound cs := by
  rw [readFound, readFound, skipBlanks_append hw]

lemma readAs_blank_append (accept? : Found → Option α) (refuse : Found → Error) (hw : Blank w)
    (cs : List Char) : Form.readAs accept? refuse (w ++ cs) = Form.readAs accept? refuse cs := by
  rw [Form.readAs, Form.readAs, readFound_blank_append hw]

/-- A number in decimal is found as itself if it fits a word. -/
lemma readFound_decimal {n : ℕ} (hn : n < UInt64.size) (hrest : EndsNumber rest) :
    readFound (Nat.toDigits 10 n ++ rest) = .ok (.number (.integer n), rest) := by
  obtain ⟨c, cs, hcs, hc⟩ := startsNumber_of_literalWritten (literalWritten_decimal n)
  have hread : readNumber (c :: (cs ++ rest)) = .ok (.integer n, rest) := by
    rw [← List.cons_append, ← hcs]
    exact readNumber_decimal hn hrest
  have hne := ne_of_startsNumber hc
  rw [hcs, List.cons_append, readFound, skipBlanks_cons (isBlank_of_startsNumber hc)]
  split
  · contradiction
  all_goals
    rename_i heq
    obtain ⟨rfl, rfl⟩ := List.cons.inj heq
    first | exact absurd rfl (hne _ (by decide)) | skip
  simp [hc, hread, bind, Except.bind]

/-- **A number below the limit** is taken from its decimal digits. -/
lemma takes_unsigned (title : String) {n limit : ℕ} (hn : n < limit)
    (hlimit : limit ≤ UInt64.size) :
    Takes (Form.unsigned title limit).read n (Scalar.number n).Written := by
  rintro s w rest ⟨⟩ hw hrest
  simp [Form.unsigned, Form.readAs, readFound_blank_append hw,
    readFound_decimal (lt_of_lt_of_le hn hlimit) hrest, Form.unsigned?, hn, bind, Except.bind]

lemma takes_boolean (x : Bool) : Takes Form.boolean.read x (Scalar.boolean x).Written := by
  rintro s w rest hs hw -
  simp only [Form.boolean, readAs_blank_append _ _ hw]
  cases hs <;> rfl

/-- `null` is taken with blanks in front of it. -/
lemma takes_unit : Takes Form.unit.read () (· = ['n', 'u', 'l', 'l']) := by
  rintro s w rest rfl hw -
  simp only [Form.unit, readAs_blank_append _ _ hw]
  rfl

/-! ## Choices -/

/-- An object whose one key is `name`, with content that is written as given. -/
def TagWritten (name : String) (Written : List Char → Prop) (s : List Char) : Prop :=
  ∃ content, Written content ∧ ObjectWritten TextKey [(name, content)] s

variable {variants : List (Variant α)} {variant : Variant α} {name : String}

lemma readChoice_blank_append (variants : List (Variant α)) (hw : Blank w) (cs : List Char) :
    readChoice variants (w ++ cs) = readChoice variants cs := by
  rw [readChoice, readChoice, skipBlanks_append hw]

lemma closeChoice_append (hw : Blank w) (rest : List Char) :
    closeChoice (w ++ '}' :: rest) = .ok rest := by
  simp [closeChoice, hw, skipBlanks_cons (c := '}') rfl]

/-- Behind its key, a tagged value is read as its content is. -/
lemma exists_readChoice_tag (hvariant : findVariant variants name = .ok variant)
    {content s : List Char} (hs : ObjectWritten TextKey [(name, content)] s) (rest : List Char) :
    ∃ w w', Blank w ∧ Blank w' ∧ readChoice variants (s ++ rest)
      = (do
        let (value, rest) ← variant.content (w ++ (content ++ (w' ++ '}' :: rest)))
        let rest ← closeChoice rest
        .ok (value, rest)) := by
  obtain _ | hjoined := hs
  obtain hentry | ⟨-, hnone⟩ := hjoined
  · obtain @⟨_, body, _, w, w', _, hw, hkey, hw', u, u', hu, hu'⟩ := hentry
    refine ⟨u, u', hu, hu', ?_⟩
    simp [readChoice, skipBlanks_cons (c := '{') rfl, readKeyed, hw, skipBlanks_cons (c := '"') rfl,
      readText_append hkey, hvariant, colon_append hw', bind, Except.bind]
  · cases hnone

/-- **A variant behind its key** is taken as its content is. -/
lemma takes_tag {x : α} (hvariant : findVariant variants name = .ok variant)
    (h : Takes variant.content x Written) :
    Takes (readChoice variants) x (TagWritten name Written) := by
  rintro s w rest ⟨content, hcontent, hs⟩ hw -
  obtain ⟨u, u', hu, hu', hread⟩ := exists_readChoice_tag hvariant hs rest
  have hrest : EndsNumber (u' ++ '}' :: rest) :=
    endsNumber_blank_append hu' (endsNumber_closing .object rest)
  simp [readChoice_blank_append _ hw, hread, h content u _ hcontent hu hrest,
    closeChoice_append hu', bind, Except.bind]

/-- Where the content is refused, so is the variant. -/
lemma refuses_tag (hvariant : findVariant variants name = .ok variant)
    (h : Refuses variant.content Written) :
    Refuses (readChoice variants) (TagWritten name Written) := by
  rintro s w rest ⟨content, hcontent, hs⟩ hw -
  obtain ⟨u, u', hu, hu', hread⟩ := exists_readChoice_tag hvariant hs rest
  have hrest : EndsNumber (u' ++ '}' :: rest) :=
    endsNumber_blank_append hu' (endsNumber_closing .object rest)
  obtain ⟨e, he⟩ := h content u _ hcontent hu hrest
  exact ⟨e, by simp [readChoice_blank_append _ hw, hread, he, bind, Except.bind]⟩

section Carrying

variable {form : Form β} {x : β} (kind : Content)

lemma takes_carrying (name : String) (wrap : β → α) (h : Takes form.read x Written) :
    Takes (Variant.carrying kind name form wrap).content (wrap x) Written := by
  intro s w rest hs hw hrest
  simp [Variant.carrying, h s w rest hs hw hrest, bind, Except.bind]

lemma refuses_carrying (name : String) (wrap : β → α) (h : Refuses form.read Written) :
    Refuses (Variant.carrying kind name form wrap).content Written := by
  intro s w rest hs hw hrest
  obtain ⟨e, he⟩ := h s w rest hs hw hrest
  exact ⟨e, by simp [Variant.carrying, he, bind, Except.bind]⟩

end Carrying

/-! ## Names -/

/-- Whether a name may be written as it is. -/
def Verbatim (name : String) : Prop := ∀ c ∈ name.toList, ' ' ≤ c ∧ c ≠ '"' ∧ c ≠ '\\'

instance (name : String) : Decidable (Verbatim name) :=
  decidable_of_iff (name.toList.all fun c => ' ' ≤ c ∧ c ≠ '"' ∧ c ≠ '\\') (by simp [Verbatim])

/-- A name that needs no escapes is a key as it stands. -/
lemma Verbatim.textKey (h : Verbatim name) : TextKey name name.toList := by
  rw [TextKey]
  rw [Verbatim] at h
  generalize name.toList = cs at h ⊢
  induction cs with
  | nil => exact .nil
  | cons c cs ih =>
      obtain ⟨hc, hquote, hback⟩ := h c List.mem_cons_self
      exact .cons (.plain hc hquote hback) (ih fun d hd => h d (List.mem_cons_of_mem c hd))

lemma written_quote (h : Verbatim name) : (Scalar.name name).Written (quote name) := by
  rw [quote, List.cons_append]
  exact .bare h.textKey

lemma Verbatim.entryWritten (h : Verbatim name) (value : List Char) :
    EntryWritten TextKey (name, value) (quote name ++ ':' :: value) := by
  have hentry := EntryWritten.entry blank_nil h.textKey blank_nil (.refl value)
  simpa [quote] using hentry

/-- What is printed for a variant is one of the ways to write it. -/
lemma tagWritten_tagged (h : Verbatim name) {content : List Char} (hcontent : Written content) :
    TagWritten name Written (tagged name content) := by
  have htagged : ObjectWritten TextKey [(name, content)]
      ('{' :: (quote name ++ ':' :: content ++ ['}'])) :=
    Enclosed.filled (.one (h.entryWritten content))
  exact ⟨content, hcontent, by simpa [tagged] using htagged⟩

variable {all : List α} {label : α → String}

/-- Names that are all different find their own values. -/
lemma findVariant_plain (hlabels : (all.map label).Nodup) {x : α} (hx : x ∈ all) :
    findVariant (all.map fun value => Variant.plain (label value) value) (label x)
      = .ok (.plain (label x) x) := by
  have hfind : all.find? (fun y => label y == label x) = some x := by
    cases h : all.find? (fun y => label y == label x) with
    | none => simpa using List.find?_eq_none.mp h x hx
    | some y =>
        have hy : label y = label x := by simpa using List.find?_some h
        rw [List.inj_on_of_nodup_map hlabels (List.mem_of_find?_eq_some h) hx hy]
  rw [findVariant, List.find?_map]
  simp [Function.comp_def, Variant.plain, hfind]

/-- Whatever a name finds has that name. -/
lemma exists_of_findVariant_plain
    (h : findVariant (all.map fun value => Variant.plain (label value) value) name = .ok variant) :
    ∃ x, variant = .plain (label x) x ∧ label x = name := by
  rw [findVariant] at h
  split at h
  · rename_i hfind
    cases h
    have hname : variant.name = name := by simpa using List.find?_some hfind
    obtain ⟨x, -, rfl⟩ := List.mem_map.mp (List.mem_of_find?_eq_some hfind)
    exact ⟨x, rfl, hname⟩
  · cases h

lemma takes_plain (name : String) (x : α) :
    Takes (Variant.plain name x).content x (· = ['n', 'u', 'l', 'l']) := by
  intro s w rest hs hw hrest
  simp [Variant.plain, takes_unit s w rest hs hw hrest, bind, Except.bind]

/-- **A name is taken**, bare or as the key of `null`. -/
lemma takes_enumeration (hlabels : (all.map label).Nodup) {x : α} (hx : x ∈ all) :
    Takes (enumeration all label).read x (Scalar.name (label x)).Written := by
  intro s w rest hs hw hrest
  have hvariant := findVariant_plain hlabels hx
  simp only [enumeration]
  cases hs with
  | bare hbody =>
      rw [readChoice_blank_append _ hw, readChoice, List.cons_append, skipBlanks_cons rfl,
        List.append_assoc]
      simp only [readBare, List.singleton_append, readText_append hbody, hvariant, bind, Except.bind]
      rfl
  | keyed hs => exact takes_tag hvariant (takes_plain _ x) s w rest ⟨_, rfl, hs⟩ hw hrest

/-! ## What can only have been written so -/

lemma finishWord_eq_ok {word cs rest : List Char} (h : finishWord word cs = .ok rest) :
    cs = word ++ rest := by
  induction word generalizing cs with
  | nil =>
      cases h
      rfl
  | cons c word ih =>
      cases cs with
      | nil => cases h
      | cons d cs =>
          rw [finishWord] at h
          split_ifs at h with hd
          rw [hd, ih h, List.cons_append]

lemma exists_of_closeChoice {cs rest : List Char} (h : closeChoice cs = .ok rest) :
    ∃ w, Blank w ∧ cs = w ++ '}' :: rest := by
  rw [closeChoice] at h
  split at h
  · cases h
  · rename_i hskip
    cases h
    exact exists_of_skipBlanks hskip
  · cases h

/-- The word that a value is written as, if it is one. -/
def Found.word? : Found → Option (List Char)
  | .null => some ['n', 'u', 'l', 'l']
  | .boolean true => some ['t', 'r', 'u', 'e']
  | .boolean false => some ['f', 'a', 'l', 's', 'e']
  | _ => none

/-- `null`, `true` and `false` are found only where they are written. -/
lemma exists_of_readFound_word {cs word : List Char} {found : Found}
    (h : readFound cs = .ok (found, rest)) (hword : found.word? = some word) :
    ∃ w, Blank w ∧ cs = w ++ (word ++ rest) := by
  obtain ⟨w, hw, hcs⟩ := exists_blank_append cs
  refine ⟨w, hw, ?_⟩
  rw [readFound] at h
  split at h
  case h_1 => cases h
  case h_2 | h_3 =>
    cases h
    cases hword
  case h_4 =>
    obtain ⟨_, -, hnext⟩ := exists_of_bind_eq_ok h
    cases hnext
    cases hword
  case h_5 | h_6 | h_7 =>
    rename_i hskip
    obtain ⟨_, hfinish, hnext⟩ := exists_of_bind_eq_ok h
    cases hnext
    cases hword
    rw [hcs, hskip, finishWord_eq_ok hfinish]
    rfl
  case h_8 =>
    split_ifs at h
    obtain ⟨_, -, hnext⟩ := exists_of_bind_eq_ok h
    cases hnext
    cases hword

/-- What is read was found and accepted. -/
lemma exists_of_readAs {accept? : Found → Option α} {refuse : Found → Error} {cs : List Char}
    {x : α} (h : Form.readAs accept? refuse cs = .ok (x, rest)) :
    ∃ found, readFound cs = .ok (found, rest) ∧ accept? found = some x := by
  obtain ⟨⟨found, after⟩, hfound, hnext⟩ := exists_of_bind_eq_ok h
  dsimp only at hnext
  split at hnext
  · rename_i haccept
    cases hnext
    exact ⟨found, hfound, haccept⟩
  · cases hnext

lemma sound_unit : Sound Form.unit.read (fun _ => (· = ['n', 'u', 'l', 'l'])) := by
  intro cs x rest h
  change Form.readAs Form.null? (.wrongType · "unit") cs = _ at h
  obtain ⟨found, hfound, hnull⟩ := exists_of_readAs h
  have hword : found.word? = some ['n', 'u', 'l', 'l'] := by
    cases found <;> first | rfl | cases hnull
  obtain ⟨w, hw, hcs⟩ := exists_of_readFound_word hfound hword
  exact ⟨w, _, hw, rfl, hcs⟩

lemma sound_boolean : Sound Form.boolean.read (fun x => (Scalar.boolean x).Written) := by
  intro cs x rest h
  change Form.readAs Form.boolean? (.wrongType · "a boolean") cs = _ at h
  obtain ⟨found, hfound, hboolean⟩ := exists_of_readAs h
  have hword : ∃ word, found.word? = some word ∧ (Scalar.boolean x).Written word := by
    cases found with
    | boolean value =>
        cases hboolean
        cases x
        · exact ⟨_, rfl, .false⟩
        · exact ⟨_, rfl, .true⟩
    | _ => cases hboolean
  obtain ⟨word, hfoundword, hwritten⟩ := hword
  obtain ⟨w, hw, hcs⟩ := exists_of_readFound_word hfound hfoundword
  exact ⟨w, word, hw, hwritten, hcs⟩

/-- **Whatever is read as a name** was written as one, in one of the two ways. -/
lemma sound_enumeration :
    Sound (enumeration all label).read (fun x => (Scalar.name (label x)).Written) := by
  intro cs x rest h
  obtain ⟨w, hw, hcs⟩ := exists_blank_append cs
  simp only [enumeration, readChoice] at h
  split at h
  · cases h
  · rename_i tail hskip
    obtain ⟨⟨name, after⟩, hname, hnext⟩ := exists_of_bind_eq_ok h
    obtain ⟨variant, hvariant, hbare⟩ := exists_of_bind_eq_ok hnext
    obtain ⟨y, rfl, rfl⟩ := exists_of_findVariant_plain hvariant
    cases hbare
    obtain ⟨body, hbody, rfl⟩ := exists_of_readText hname
    exact ⟨w, _, hw, .bare hbody, by rw [hcs, hskip]; simp⟩
  · rename_i tail hskip
    obtain ⟨u, hu, htail⟩ := exists_blank_append tail
    rw [readKeyed] at h
    split at h
    · cases h
    · cases h
    · rename_i key hkey
      obtain ⟨⟨name, after⟩, hname, hnext⟩ := exists_of_bind_eq_ok h
      obtain ⟨variant, hvariant, hnext⟩ := exists_of_bind_eq_ok hnext
      obtain ⟨padded, hcolon, hnext⟩ := exists_of_bind_eq_ok hnext
      obtain ⟨⟨value, closing⟩, hcontent, hnext⟩ := exists_of_bind_eq_ok hnext
      obtain ⟨_, hclose, hnext⟩ := exists_of_bind_eq_ok hnext
      cases hnext
      obtain ⟨y, rfl, rfl⟩ := exists_of_findVariant_plain hvariant
      obtain ⟨⟨⟨⟩, _⟩, hunit, hnext⟩ := exists_of_bind_eq_ok hcontent
      cases hnext
      obtain ⟨body, hbody, rfl⟩ := exists_of_readText hname
      obtain ⟨u', hu', rfl⟩ := exists_of_colon hcolon
      obtain ⟨v, null, hv, rfl, rfl⟩ := sound_unit _ _ _ hunit
      obtain ⟨v', hv', rfl⟩ := exists_of_closeChoice hclose
      refine ⟨w, _, hw, .keyed (.filled (.one (.entry hu hbody hu' (.blanks hv hv')))), ?_⟩
      rw [hcs, hskip, htail, hkey]
      simp
    · cases h
  · cases h

/-! ## Agreement with skipping -/

/-- Skipping over a number leaves what reading it leaves. -/
lemma skipValue_of_startsNumber {c : Char} {cs tail : List Char} (hskip : skipBlanks cs = c :: tail)
    (hc : startsNumber c = true) (h : skipLiteral (c :: tail) = .ok rest) :
    skipValue cs = .ok rest := by
  have hne := ne_of_startsNumber hc
  have hstep : skipStep [] cs = .ok (.done rest) := by
    have hscalar : skipScalar c tail = .ok rest := by
      rw [skipScalar, if_pos hc, h]
      all_goals exact hne _ (by decide)
    rw [skipStep, hskip]
    split
    · contradiction
    all_goals
      rename_i heq
      obtain ⟨rfl, rfl⟩ := List.cons.inj heq
      first | exact absurd rfl (hne _ (by decide)) | skip
    simp [hscalar, afterValue, bind, Except.bind]
  rw [skipValue, skipSteps_succ, hstep]
  rfl

lemma agrees_unsigned (title : String) (limit : ℕ) : Agrees (Form.unsigned title limit).read := by
  intro cs n rest h
  obtain ⟨found, hfound, hunsigned⟩ := exists_of_readAs h
  cases found with
  | number number =>
      rw [readFound] at hfound
      split at hfound
      case h_1 | h_2 | h_3 => cases hfound
      case h_4 | h_5 | h_6 | h_7 =>
        obtain ⟨_, -, hnext⟩ := exists_of_bind_eq_ok hfound
        cases hnext
      case h_8 =>
        rename_i hskip
        split_ifs at hfound with hc
        obtain ⟨⟨number, after⟩, hnumber, hnext⟩ := exists_of_bind_eq_ok hfound
        obtain ⟨⟨literal, after⟩, hliteral, hvalue⟩ := exists_of_bind_eq_ok hnumber
        obtain ⟨_, -, hend⟩ := exists_of_bind_eq_ok hvalue
        cases hnext
        cases hend
        exact skipValue_of_startsNumber hskip hc (by rw [skipLiteral, hliteral])
  | _ => cases hunsigned

/-- Reading a name leaves what skipping leaves, since what is read was written as a value. -/
lemma agrees_enumeration : Agrees (enumeration all label).read := by
  intro cs x rest h
  obtain ⟨w, s, hw, hs, rfl⟩ := sound_enumeration cs x rest h
  have hskip : Skips (fun _ => True) s := by
    cases hs with
    | bare hbody => exact skips_text (TextWritten.isText hbody)
    | keyed hs =>
        refine skips_object (fun _ _ hkey => TextWritten.isText hkey) ?_ hs
        intro entry hentry
        obtain rfl := List.mem_singleton.mp hentry
        exact IsValue.null.skips
  exact skipValue_append hskip hw trivial

lemma agrees_boolean : Agrees Form.boolean.read := by
  intro cs x rest h
  obtain ⟨w, s, hw, hs, rfl⟩ := sound_boolean cs x rest h
  have hskip : Skips (fun _ => True) s := by
    cases hs <;> exact skips_scalar rfl (by decide) (by decide) fun _ _ => rfl
  exact skipValue_append hskip hw trivial

/-! ## Forms of scalars -/

/-- **Words are scalars**, whatever their width up to 64. -/
lemma shows_word {title : String} {ofNat : ℕ → α} {toNat : α → ℕ} {limit : ℕ}
    (hlimit : limit ≤ UInt64.size) (hlt : ∀ x, toNat x < limit) (hof : ∀ x, ofNat (toNat x) = x) :
    ((Form.unsigned title limit).via ofNat toNat).Shows (fun x => .number (toNat x)) := by
  refine ⟨?_, agrees_via (agrees_unsigned title limit), fun x => .number (toNat x)⟩
  intro x
  have h : Takes ((Form.unsigned title limit).via ofNat toNat).read (ofNat (toNat x)) _ :=
    takes_via (takes_unsigned title (hlt x) hlimit)
  rwa [hof] at h

lemma shows_word8 : Form.word8.Shows (fun x => .number x.toNat) :=
  shows_word (by decide) UInt8.toNat_lt_size fun _ => UInt8.ofNat_toNat

lemma shows_word16 : Form.word16.Shows (fun x => .number x.toNat) :=
  shows_word (by decide) UInt16.toNat_lt_size fun _ => UInt16.ofNat_toNat

lemma shows_word32 : Form.word32.Shows (fun x => .number x.toNat) :=
  shows_word (by decide) UInt32.toNat_lt_size fun _ => UInt32.ofNat_toNat

lemma shows_word64 : Form.word64.Shows (fun x => .number x.toNat) :=
  shows_word le_rfl UInt64.toNat_lt_size fun _ => UInt64.ofNat_toNat

lemma shows_boolean : Form.boolean.Shows .boolean := by
  refine ⟨takes_boolean, agrees_boolean, ?_⟩
  rintro (_ | _)
  · exact .false
  · exact .true

/-- **Choices between names are scalars** if the names are all different and need no escapes. -/
lemma shows_enumeration (hlabels : (all.map label).Nodup) (hall : ∀ x, x ∈ all)
    (hnames : ∀ x ∈ all, Verbatim (label x)) :
    (enumeration all label).Shows (fun x => .name (label x)) :=
  ⟨fun x => takes_enumeration hlabels (hall x), agrees_enumeration,
    fun x => written_quote (hnames x (hall x))⟩

/-! ## What whole texts were read -/

end WordCodec.Json
