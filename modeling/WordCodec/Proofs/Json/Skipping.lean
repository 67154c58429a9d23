import Mathlib.Tactic
import WordCodec.Json.Skip
import WordCodec.Proofs.Json.Literals

/-!
# Skipping values

`skipValue` drops any value of the grammar, however deep, and nothing behind it
(`skipValue_append`).

The open lists and objects stand on a stack, so the statement to prove about a value is about every
stack: skipping the value comes down to what `afterValue` does in the frames it stands in (`Skips`).
Lists and objects differ in what stands in front of each value only, which is nothing or a key, and
`Frame.Passes` says the same of a value with what stands in front of it.  The induction is on the
value, and within a list or an object on its parts.

**Steps.**  A value takes no more steps than it has characters; the number is part of each
statement.
-/

namespace WordCodec.Json

/-! ## One step -/

/-- Goes on with what is pending, for at most `n` steps. -/
def resume (n : ℕ) : Pending → Except Error (List Char)
  | .done rest => .ok rest
  | .value frames rest => skipSteps n frames rest

/-- A run of steps is one step and what is pending after it. -/
lemma skipSteps_succ (n : ℕ) (frames : List Frame) (cs : List Char) :
    skipSteps (n + 1) frames cs = skipStep frames cs >>= resume n := by
  rw [skipSteps]
  congr 1

@[simp] lemma skipBlanks_skipBlanks (cs : List Char) :
    skipBlanks (skipBlanks cs) = skipBlanks cs := by
  obtain ⟨w, hw, hcs⟩ := exists_blank_append cs
  conv_rhs => rw [hcs, skipBlanks_append hw]

lemma skipSteps_skipBlanks (n : ℕ) (frames : List Frame) (cs : List Char) :
    skipSteps n frames (skipBlanks cs) = skipSteps n frames cs := by
  cases n with
  | zero => rfl
  | succ n => simp [skipSteps_succ, skipStep]

/-- Where a value starts, blanks do not matter. -/
lemma enter_skipBlanks (frame : Frame) (n : ℕ) (frames : List Frame) (cs : List Char) :
    (frame.enter (skipBlanks cs) >>= skipSteps n frames)
      = frame.enter cs >>= skipSteps n frames := by
  cases frame with
  | list => exact skipSteps_skipBlanks n frames cs
  | object => simp [Frame.enter, skipKey]

lemma closing_ne_comma (frame : Frame) : frame.closing ≠ ',' := by
  cases frame <;> decide

lemma isBlank_closing (frame : Frame) : isBlank frame.closing = false := by
  cases frame <;> rfl

lemma endsNumber_closing (frame : Frame) (rest : List Char) :
    EndsNumber (frame.closing :: rest) := by
  cases frame <;> exact endsNumber_cons (by decide) rest

lemma endsNumber_comma (rest : List Char) : EndsNumber (',' :: rest) :=
  endsNumber_cons (by decide) rest

variable {w rest : List Char}

/-- The end of a frame goes on in the frame around it. -/
lemma afterValue_closing (frame : Frame) (frames : List Frame) (hw : Blank w) :
    afterValue (frame :: frames) (w ++ frame.closing :: rest) = afterValue frames rest := by
  simp [afterValue, hw, skipBlanks_cons (isBlank_closing frame), closing_ne_comma]

/-- A comma goes on with another part of the same frame. -/
lemma afterValue_comma (frame : Frame) (frames : List Frame) (hw : Blank w) (n : ℕ) :
    (afterValue (frame :: frames) (w ++ ',' :: rest) >>= resume n)
      = frame.enter rest >>= skipSteps n (frame :: frames) := by
  rw [afterValue, skipBlanks_append hw, skipBlanks_cons (by rfl)]
  simp only [if_true]
  cases frame.enter rest <;> rfl

lemma afterOpening_closing (frame : Frame) (frames : List Frame) (hw : Blank w) :
    afterOpening frame frames (w ++ frame.closing :: rest) = afterValue frames rest := by
  simp [afterOpening, hw, skipBlanks_cons (isBlank_closing frame)]

/-- Whether a text begins with something else than the end of a frame. -/
def Starts (s : List Char) : Prop :=
  ∃ w c cs, Blank w ∧ s = w ++ c :: cs ∧ isBlank c = false ∧ ∀ frame : Frame, c ≠ frame.closing

lemma Starts.append {s : List Char} (h : Starts s) (rest : List Char) : Starts (s ++ rest) := by
  obtain ⟨w, c, cs, hw, rfl, hc⟩ := h
  exact ⟨w, c, cs ++ rest, hw, by simp, hc⟩

lemma Starts.blank_append {s : List Char} (hw : Blank w) (h : Starts s) : Starts (w ++ s) := by
  obtain ⟨w', c, cs, hw', rfl, hc⟩ := h
  exact ⟨w ++ w', c, cs, hw.append hw', by simp, hc⟩

/-- A frame that does not end at once goes on with its first part. -/
lemma afterOpening_starts (frame : Frame) (frames : List Frame) (n : ℕ) (h : Starts rest) :
    (afterOpening frame frames rest >>= resume n)
      = frame.enter rest >>= skipSteps n (frame :: frames) := by
  obtain ⟨w, c, cs, hw, rfl, hblank, hc⟩ := h
  rw [← enter_skipBlanks, afterOpening, skipBlanks_append hw, skipBlanks_cons hblank]
  simp only [if_neg (hc frame)]
  cases frame.enter (c :: cs) <;> rfl

/-! ## Values -/

/-- **Skipping a value** goes on behind it, in the frames it stands in.  Only numbers ask for
something of what stands there. -/
def Skips (Ends : List Char → Prop) (v : List Char) : Prop :=
  ∃ k ≤ v.length, ∀ n frames w rest, Blank w → Ends rest →
    skipSteps (n + k) frames (w ++ (v ++ rest)) = afterValue frames rest >>= resume n

/-- **Skipping a part of a frame**, which is a value and what stands in front of it. -/
def Frame.Passes (frame : Frame) (s : List Char) : Prop :=
  ∃ k ≤ s.length, ∀ n frames rest, EndsNumber rest →
    (frame.enter (s ++ rest) >>= skipSteps (n + k) (frame :: frames))
      = afterValue (frame :: frames) rest >>= resume n

lemma afterValue_blank_append (frame : Frame) (frames : List Frame) (hw : Blank w) :
    afterValue (frame :: frames) (w ++ rest) = afterValue (frame :: frames) rest := by
  simp [afterValue, hw]

/-- An item of a list is passed as its value is skipped. -/
lemma passes_item {v s : List Char} (hv : Skips EndsNumber v) (h : Padded v s) :
    Frame.list.Passes s := by
  obtain ⟨k, hk, hskip⟩ := hv
  obtain @⟨w, w', hw, hw'⟩ := h
  refine ⟨k, by simp only [List.length_append]; omega, ?_⟩
  intro n frames rest hrest
  have hvalue := hskip n (.list :: frames) w (w' ++ rest) hw (endsNumber_blank_append hw' hrest)
  rw [afterValue_blank_append _ _ hw'] at hvalue
  simpa [Frame.enter, bind, Except.bind] using hvalue

variable {κ : Type} {Key : κ → List Char → Prop}

/-- An entry of an object is passed with its key. -/
lemma passes_entry (hkeys : ∀ key body, Key key body → IsText body) {entry : κ × List Char}
    {s : List Char} (hv : Skips EndsNumber entry.2) (h : EntryWritten Key entry s) :
    Frame.object.Passes s := by
  obtain ⟨k, hk, hskip⟩ := hv
  obtain @⟨key, body, v, w, w', s, hw, hkey, hw', hs⟩ := h
  obtain @⟨u, u', hu, hu'⟩ := hs
  dsimp only at hk
  refine ⟨k, by simp only [List.length_append, List.length_cons]; omega, ?_⟩
  intro n frames rest hrest
  have hvalue := hskip n (.object :: frames) u (u' ++ rest) hu (endsNumber_blank_append hu' hrest)
  rw [afterValue_blank_append _ _ hu'] at hvalue
  have henter : Frame.object.enter
        (w ++ '"' :: (body ++ '"' :: (w' ++ ':' :: (u ++ (v ++ u')))) ++ rest)
      = .ok (u ++ (v ++ (u' ++ rest))) := by
    simp [Frame.enter, skipKey, hw, skipBlanks_cons (c := '"') (by rfl),
      skipText_append (hkeys _ _ hkey), colon_append hw', bind, Except.bind]
  rw [henter]
  exact hvalue

/-- **A run of parts is passed up to the end of its frame.**  The induction is on the parts, and the
steps that each of them takes add up. -/
lemma passes_joined {β : Type} {Part : β → List Char → Prop} {xs : List β} {s : List Char}
    (frame : Frame) (hpart : ∀ x ∈ xs, ∀ s, Part x s → frame.Passes s) (h : Joined Part xs s) :
    ∃ k ≤ s.length, ∀ n frames rest,
      (frame.enter (s ++ frame.closing :: rest) >>= skipSteps (n + k) (frame :: frames))
        = afterValue frames rest >>= resume n := by
  induction h with
  | one h =>
      obtain ⟨k, hk, hpass⟩ := hpart _ List.mem_cons_self _ h
      refine ⟨k, hk, ?_⟩
      intro n frames rest
      rw [hpass n frames _ (endsNumber_closing frame rest)]
      congr 1
      exact afterValue_closing frame frames blank_nil
  | @more x xs s t h _ ih =>
      obtain ⟨k, hk, hpass⟩ := hpart x List.mem_cons_self s h
      obtain ⟨k', hk', hmore⟩ := ih fun y hy => hpart y (List.mem_cons_of_mem x hy)
      refine ⟨k' + k, by simp only [List.length_append, List.length_cons]; omega, ?_⟩
      intro n frames rest
      rw [List.append_assoc, List.cons_append, ← Nat.add_assoc,
        hpass (n + k') frames _ (endsNumber_comma _)]
      have hcomma : (afterValue (frame :: frames) (',' :: (t ++ frame.closing :: rest))
            >>= resume (n + k'))
          = frame.enter (t ++ frame.closing :: rest) >>= skipSteps (n + k') (frame :: frames) :=
        afterValue_comma frame frames blank_nil (n + k')
      rw [hcomma, hmore]

lemma starts_cons {c : Char} (hblank : isBlank c = false) (hc : ∀ frame : Frame, c ≠ frame.closing)
    (cs : List Char) : Starts (c :: cs) := ⟨[], c, cs, blank_nil, rfl, hblank, hc⟩

lemma startsNumber_of_literalWritten {literal : Literal} {s : List Char}
    (h : LiteralWritten literal s) : ∃ c cs, s = c :: cs ∧ startsNumber c = true := by
  obtain @⟨sign, point, tail, hsign, ⟨hne, hall⟩, -, -, -⟩ := h
  obtain ⟨d, ds, hds⟩ := List.exists_cons_of_ne_nil hne
  have hd : startsNumber d = true := by
    simp [startsNumber, hall d (by simp [hds])]
  cases hnegative : literal.negative with
  | true => exact ⟨'-', _, by simp [hsign, hnegative]; rfl, rfl⟩
  | false => exact ⟨d, _, by simp [hsign, hnegative, hds]; rfl, hd⟩

/-- A number starts like nothing else that may stand in its place. -/
lemma ne_of_startsNumber {c : Char} (h : startsNumber c = true) :
    ∀ d ∈ [' ', '\t', '\n', '\r', '[', ']', '{', '}', '"', 'n', 't', 'f'], c ≠ d := by
  rintro d hd rfl
  have hfalse : startsNumber c = false := by fin_cases hd <;> decide
  rw [hfalse] at h
  cases h

lemma isBlank_of_startsNumber {c : Char} (h : startsNumber c = true) : isBlank c = false := by
  rw [← Bool.not_eq_true, isBlank_iff]
  intro hc
  exact ne_of_startsNumber h c (List.mem_append_left _ hc) rfl

/-- A value starts with its first character, and unlike the end of a frame. -/
lemma IsValue.exists_cons {v : List Char} (h : IsValue v) :
    ∃ c cs, v = c :: cs ∧ isBlank c = Bool.false ∧ ∀ frame : Frame, c ≠ frame.closing := by
  cases h with
  | null | true | false | text => exact ⟨_, _, rfl, rfl, by intro frame; cases frame <;> decide⟩
  | number h =>
      obtain ⟨c, cs, rfl, hc⟩ := startsNumber_of_literalWritten h
      refine ⟨c, cs, rfl, isBlank_of_startsNumber hc, ?_⟩
      intro frame
      cases frame <;> exact ne_of_startsNumber hc _ (by decide)
  | list h => cases h <;> exact ⟨_, _, rfl, rfl, by intro frame; cases frame <;> decide⟩
  | object h => cases h <;> exact ⟨_, _, rfl, rfl, by intro frame; cases frame <;> decide⟩

lemma IsValue.starts {v : List Char} (h : IsValue v) : Starts v := by
  obtain ⟨c, cs, rfl, hblank, hc⟩ := h.exists_cons
  exact starts_cons hblank hc cs

variable {Ends : List Char → Prop}

lemma skips_scalar {c : Char} {s : List Char} (hblank : isBlank c = false) (hlist : c ≠ '[')
    (hobject : c ≠ '{') (h : ∀ rest, Ends rest → skipScalar c (s ++ rest) = .ok rest) :
    Skips Ends (c :: s) := by
  refine ⟨1, by simp, ?_⟩
  intro n frames w rest hw hrest
  have hstep : skipStep frames (w ++ (c :: (s ++ rest))) = afterValue frames rest := by
    simp [skipStep, hw, skipBlanks_cons hblank, h rest hrest, bind, Except.bind]
  rw [skipSteps_succ, List.cons_append, hstep]

/-- A list or an object is skipped if each of its parts is passed. -/
lemma skips_enclosed {β : Type} {Part : β → List Char → Prop} {xs : List β} {s : List Char}
    (frame : Frame) {opening : Char}
    (hopening : ∀ frames w rest, Blank w →
      skipStep frames (w ++ opening :: rest) = afterOpening frame frames rest)
    (hpart : ∀ x ∈ xs, ∀ s, Part x s → frame.Passes s ∧ Starts s)
    (h : Enclosed opening frame.closing Part xs s) : Skips Ends s := by
  cases h with
  | @empty w h =>
      refine ⟨1, by simp, ?_⟩
      intro n frames w' rest hw' hrest
      rw [skipSteps_succ, List.cons_append, hopening frames w' _ hw', List.append_assoc,
        List.singleton_append, afterOpening_closing frame frames h]
  | @filled _ s h =>
      have hstarts : Starts s := by
        cases h with
        | one h => exact (hpart _ List.mem_cons_self _ h).2
        | more h _ => exact (hpart _ List.mem_cons_self _ h).2.append _
      obtain ⟨k, hk, hjoined⟩ := passes_joined frame (fun x hx s hs => (hpart x hx s hs).1) h
      refine ⟨k + 1, by simp only [List.length_cons, List.length_append]; omega, ?_⟩
      intro n frames w rest hw hrest
      rw [← Nat.add_assoc, skipSteps_succ, List.cons_append, hopening frames w _ hw,
        List.append_assoc, List.singleton_append, afterOpening_starts _ _ _ (hstarts.append _),
        hjoined]

lemma skips_text {body : List Char} (h : IsText body) : Skips Ends ('"' :: (body ++ ['"'])) := by
  refine skips_scalar rfl (by decide) (by decide) ?_
  intro rest _
  rw [List.append_assoc]
  exact skipText_append h rest

lemma skips_list {values : List (List Char)} {s : List Char}
    (hvalues : ∀ v ∈ values, Skips EndsNumber v ∧ Starts v) (h : ListWritten values s) :
    Skips Ends s := by
  refine skips_enclosed .list ?_ ?_ h
  · intro frames w rest hw
    simp [skipStep, hw, skipBlanks_cons (c := '[') rfl]
  · intro v hv s hs
    obtain ⟨hskip, hstarts⟩ := hvalues v hv
    refine ⟨passes_item hskip hs, ?_⟩
    obtain ⟨hw, -⟩ := hs
    exact (hstarts.append _).blank_append hw

lemma skips_object (hkeys : ∀ key body, Key key body → IsText body)
    {entries : List (κ × List Char)} {s : List Char}
    (hentries : ∀ entry ∈ entries, Skips EndsNumber entry.2) (h : ObjectWritten Key entries s) :
    Skips Ends s := by
  refine skips_enclosed .object ?_ ?_ h
  · intro frames w rest hw
    simp [skipStep, hw, skipBlanks_cons (c := '{') rfl]
  · intro entry hentry s hs
    refine ⟨passes_entry hkeys (hentries entry hentry) hs, ?_⟩
    obtain ⟨hw, -, -, -⟩ := hs
    exact (starts_cons rfl (by intro frame; cases frame <;> decide) _).blank_append hw

/-- **Every value is skipped.** -/
lemma IsValue.skips {v : List Char} (h : IsValue v) : Skips EndsNumber v := by
  induction h with
  | null | true | false =>
      refine skips_scalar rfl (by decide) (by decide) ?_
      intro rest _
      rfl
  | text h => exact skips_text h
  | number h =>
      obtain ⟨c, cs, rfl, hc⟩ := startsNumber_of_literalWritten h
      have hne := ne_of_startsNumber hc
      refine skips_scalar (isBlank_of_startsNumber hc) (hne _ (by decide)) (hne _ (by decide)) ?_
      intro rest hrest
      have hliteral : skipLiteral (c :: (cs ++ rest)) = .ok rest := by
        rw [skipLiteral, ← List.cons_append, scanLiteral_append h hrest]
      rw [skipScalar, if_pos hc, hliteral]
      all_goals exact hne _ (by decide)
  | list h hvalues ih => exact skips_list (fun v hv => ⟨ih v hv, (hvalues v hv).starts⟩) h
  | object h _ ih => exact skips_object (fun _ _ hkey => hkey.2) ih h

/-- **Skipping a value** leaves what stands behind it. -/
lemma skipValue_append {v : List Char} (h : Skips Ends v) (hw : Blank w) (hrest : Ends rest) :
    skipValue (w ++ (v ++ rest)) = .ok rest := by
  obtain ⟨k, hk, hskip⟩ := h
  have hsteps : (w ++ (v ++ rest)).length + 1 = (w ++ (v ++ rest)).length + 1 - k + k := by
    simp only [List.length_append]
    omega
  rw [skipValue, hsteps, hskip _ _ _ _ hw hrest]
  rfl

end WordCodec.Json
