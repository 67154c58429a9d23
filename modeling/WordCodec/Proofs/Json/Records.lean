import Mathlib.Tactic
import WordCodec.Json.Record
import WordCodec.Proofs.Json.Values

/-!
# Reading records

A record of scalars is read from an object with its fields in any order, or from a list of them in
the order of its members.  `Members.Shows` gives the fields of a value: the keys with the scalars
that they stand for.

**What has been read** so far is determined by the keys that have occurred, `Members.partly`.  An
entry adds its key to them (`readEntries_entry`), so the run over an object ends with all of its
keys, in whichever order they came (`readEntries_joined`).  A list fills the members from the front
(`readItems_joined`).

What a read gives is stated as an equation, `read_object` and `read_list`, also where members are
missing; `takes_object` and `takes_list` are the cases in which all of them are there.
-/

namespace WordCodec.Json

variable {α τ σ : Type} {w rest : List Char}

/-! ## Going on -/

/-- What stands in front of a part and its blanks: a comma, unless it is the first. -/
inductive Leads : Bool → List Char → Prop
  | first : Leads true []
  | later {w : List Char} : Blank w → Leads false (w ++ [','])

variable {first : Bool} {lead : List Char}

lemma nextKey_close (first : Bool) (hw : Blank w) :
    nextKey first (w ++ '}' :: rest) = .ok (.close rest) := by
  simp [nextKey, hw, skipBlanks_cons (c := '}') rfl]

lemma nextKey_item (h : Leads first lead) (hw : Blank w) (rest : List Char) :
    nextKey first (lead ++ (w ++ '"' :: rest)) = .ok (.item rest) := by
  cases h with
  | first => simp [nextKey, hw, skipBlanks_cons (c := '"') rfl]
  | later hcomma =>
      simp [nextKey, hcomma, hw, skipBlanks_cons (c := '"') rfl, skipBlanks_cons (c := ',') rfl]

lemma nextItem_close (first : Bool) (hw : Blank w) :
    nextItem first (w ++ ']' :: rest) = .ok (.close rest) := by
  simp [nextItem, hw, skipBlanks_cons (c := ']') rfl]

lemma nextItem_item (h : Leads first lead) (hw : Blank w) {c : Char} (hc : isBlank c = false)
    (hclose : c ≠ ']') (rest : List Char) :
    nextItem first (lead ++ (w ++ c :: rest)) = .ok (.item (c :: rest)) := by
  cases h with
  | first => simp [nextItem, hw, skipBlanks_cons hc]
  | later hcomma => simp [nextItem, hcomma, hw, skipBlanks_cons hc, skipBlanks_cons (c := ',') rfl]

lemma closeList_append (hw : Blank w) : closeList (w ++ ']' :: rest) = .ok rest := by
  simp [closeList, hw, skipBlanks_cons (c := ']') rfl]

/-! ## Members -/

namespace Members

/-- The fields of a value: the keys of its members with the scalars they stand for. -/
inductive Shows : {τ σ : Type} → Members τ σ → τ → List (String × Scalar) → Prop
  | nil : Shows .nil () []
  | cons {α τ σ : Type} {key : String} {form : Form α} {default? : Option α} {scalar : α → Scalar}
      {others : Members τ σ} {value : α} {values : τ} {fields : List (String × Scalar)} :
      form.Shows scalar → Verbatim key → Shows others values fields →
      Shows (.cons ⟨key, form, default?⟩ others) (value, values) ((key, scalar value) :: fields)

/-- What has been read of `values` when the keys `seen` have occurred. -/
def partly {τ σ : Type} : Members τ σ → τ → List String → σ
  | nil, _, _ => ()
  | cons member others, (value, values), seen =>
    (if member.key ∈ seen then some value else none, others.partly values seen)

/-- Every member has occurred, or it may be left out because of its default. -/
def Given {τ σ : Type} : Members τ σ → τ → List String → Prop
  | nil, _, _ => True
  | cons member others, (value, values), seen =>
    (member.key ∈ seen ∨ member.default? = some value) ∧ others.Given values seen

variable {members : Members τ σ} {values : τ} {fields : List (String × Scalar)}
  {seen seen' : List String} {key : String}

lemma Shows.map_fst (h : Shows members values fields) : fields.map Prod.fst = members.keys := by
  induction h with
  | nil => rfl
  | cons _ _ _ ih => rw [List.map_cons, keys, ih]

/-- A key without member changes nothing of what the members see. -/
lemma mem_cons_iff_of_not_mem {names : List String} (h : key ∉ names) :
    ∀ other ∈ names, other ∈ key :: seen ↔ other ∈ seen := by
  intro other hother
  rw [List.mem_cons, or_iff_right]
  rintro rfl
  exact h hother

lemma partly_congr (members : Members τ σ) (values : τ)
    (h : ∀ key ∈ members.keys, key ∈ seen ↔ key ∈ seen') :
    members.partly values seen = members.partly values seen' := by
  induction members with
  | nil => rfl
  | cons member others ih =>
      obtain ⟨value, values⟩ := values
      simp only [keys, List.forall_mem_cons] at h
      rw [partly, partly, ih values h.2]
      simp only [h.1]

lemma given_of_mem (members : Members τ σ) (values : τ) (h : ∀ key ∈ members.keys, key ∈ seen) :
    members.Given values seen := by
  induction members with
  | nil => trivial
  | cons member others ih =>
      obtain ⟨value, values⟩ := values
      rw [keys, List.forall_mem_cons] at h
      exact ⟨.inl h.1, ih values h.2⟩

lemma partly_nil (members : Members τ σ) (values : τ) :
    members.partly values [] = members.blank := by
  induction members with
  | nil => rfl
  | cons member others ih =>
      obtain ⟨value, values⟩ := values
      rw [partly, ih values, if_neg List.not_mem_nil]
      rfl

lemma collect_partly (missing : String → Error) (h : members.Given values seen) :
    members.collect missing (members.partly values seen) = .ok values := by
  induction members with
  | nil => rfl
  | cons member others ih =>
      obtain ⟨value, values⟩ := values
      obtain ⟨hvalue, hothers⟩ := h
      have hsome : ((if member.key ∈ seen then some value else none) <|> member.default?)
          = some value := by
        split_ifs with hseen
        · rfl
        · exact hvalue.resolve_left hseen
      simp [partly, collect, hsome, ih hothers, bind, Except.bind]

/-- A member that has occurred is collected in front of the others. -/
lemma collect_partly_cons {member : Member α} {value : α} (missing : String → Error)
    (hkey : member.key ∉ members.keys) :
    (cons member members).collect missing
        ((cons member members).partly (value, values) (member.key :: seen))
      = (do
        let values ← members.collect missing (members.partly values seen)
        .ok (value, values)) := by
  have hsame : members.partly values (member.key :: seen) = members.partly values seen :=
    partly_congr members values (mem_cons_iff_of_not_mem hkey)
  simp [partly, collect, hsame]

lemma slot_eq_unknown (members : Members τ σ) (h : key ∉ members.keys) (slots : σ) :
    members.slot slots key = .unknown := by
  induction members with
  | nil => rfl
  | cons member others ih =>
      obtain ⟨value, slots⟩ := slots
      rw [keys, List.mem_cons, not_or] at h
      simp only [slot, if_neg h.1, ih h.2]

/-- **A field that is due** is read into its place, and nothing else changes. -/
lemma slot_eq_vacant (h : Shows members values fields) (hkeys : members.keys.Nodup) {scalar : Scalar}
    (hfield : (key, scalar) ∈ fields) (hseen : key ∉ seen) :
    ∃ fill, members.slot (members.partly values seen) key = .vacant fill
      ∧ Takes fill (members.partly values (key :: seen)) scalar.Written := by
  induction h with
  | nil => cases hfield
  | @cons α τ σ name form default? show' others value values fields hform hname hothers ih =>
      rw [keys, List.nodup_cons] at hkeys
      by_cases hkey : key = name
      · subst hkey
        have hscalar : scalar = show' value := by
          rcases List.mem_cons.mp hfield with heq | hmem
          · exact (Prod.mk.inj heq).2
          · have hmem' := List.mem_map_of_mem (f := Prod.fst) hmem
            rw [hothers.map_fst] at hmem'
            exact absurd hmem' hkeys.1
        have hsame : others.partly values (key :: seen) = others.partly values seen :=
          partly_congr others values (mem_cons_iff_of_not_mem hkeys.1)
        refine ⟨_, by simp only [partly, slot, if_true, if_neg hseen]; rfl, ?_⟩
        intro s w rest hs hw hrest
        rw [hscalar] at hs
        simp [hform.takes value s w rest hs hw hrest, partly, hsame, bind, Except.bind]
      · have hmem : (key, scalar) ∈ fields := by
          refine (List.mem_cons.mp hfield).resolve_left fun heq => ?_
          exact hkey (Prod.mk.inj heq).1
        obtain ⟨fill, hslot, hfill⟩ := ih hkeys.2 hmem
        refine ⟨_, by simp only [partly, slot, if_neg hkey, hslot]; rfl, ?_⟩
        intro s w rest hs hw hrest
        have hmember : name ∈ key :: seen ↔ name ∈ seen := by
          rw [List.mem_cons, or_iff_right]
          exact fun heq => hkey heq.symm
        simp [hfill s w rest hs hw hrest, partly, hmember, bind, Except.bind]

end Members

/-! ## Objects -/

variable {record : Record τ σ} {values : τ} {fields : List (String × Scalar)} {seen : List String}

/-- An entry that a record can take: a field as it has to be, or anything under another key. -/
def Fits (fields : List (String × Scalar)) (closed : Bool) (entry : String × List Char) : Prop :=
  (∃ scalar, (entry.1, scalar) ∈ fields ∧ scalar.Written entry.2)
    ∨ closed = false ∧ entry.1 ∉ fields.map Prod.fst ∧ IsValue entry.2

lemma readEntries_blank_append (steps : ℕ) (hw : Blank w) (slots : σ) (cs : List Char) :
    record.readEntries steps first slots (w ++ cs) = record.readEntries steps first slots cs := by
  cases steps with
  | zero => rfl
  | succ steps => rw [Record.readEntries, Record.readEntries, nextKey, nextKey, skipBlanks_append hw]

lemma readEntries_close (steps : ℕ) (slots : σ) (hw : Blank w) :
    record.readEntries (steps + 1) first slots (w ++ '}' :: rest) = .ok (slots, rest) := by
  simp [Record.readEntries, nextKey_close first hw, bind, Except.bind]

/-- An entry is read up to its value, and then as its key says. -/
lemma exists_readEntries_entry (record : Record τ σ) (hlead : Leads first lead) {key : String}
    {v s : List Char} (hs : EntryWritten TextKey (key, v) s) (rest : List Char) :
    ∃ w w', Blank w ∧ Blank w' ∧ ∀ steps slots,
      record.readEntries (steps + 1) first slots (lead ++ (s ++ rest))
        = match record.members.slot slots key with
          | .taken => .error (.duplicateField key)
          | .unknown =>
            if record.closed then .error (.unknownField key record.members.keys)
            else skipValue (w ++ (v ++ (w' ++ rest))) >>= record.readEntries steps false slots
          | .vacant fill =>
            fill (w ++ (v ++ (w' ++ rest))) >>= fun (slots, rest) =>
              record.readEntries steps false slots rest := by
  obtain @⟨_, body, _, w, w', _, hw, hkey, hw', u, u', hu, hu'⟩ := hs
  have htext : lead ++ (w ++ '"' :: (body ++ '"' :: (w' ++ ':' :: (u ++ (v ++ u')))) ++ rest)
      = lead ++ (w ++ '"' :: (body ++ '"' :: (w' ++ ':' :: (u ++ (v ++ (u' ++ rest)))))) := by
    simp
  refine ⟨u, u', hu, hu', ?_⟩
  intro steps slots
  rw [htext, Record.readEntries, nextKey_item hlead hw]
  cases hslot : record.members.slot slots key <;>
    simp only [readText_append hkey, colon_append hw', hslot, bind, Except.bind]

/-- **One entry** adds its key to those that have occurred. -/
lemma readEntries_entry (hshows : record.members.Shows values fields)
    (hkeys : record.members.keys.Nodup) {entry : String × List Char}
    (hfits : Fits fields record.closed entry)
    (hseen : entry.1 ∈ record.members.keys → entry.1 ∉ seen) (hlead : Leads first lead)
    {s : List Char} (hs : EntryWritten TextKey entry s) (hrest : EndsNumber rest) (steps : ℕ) :
    record.readEntries (steps + 1) first (record.members.partly values seen) (lead ++ (s ++ rest))
      = record.readEntries steps false (record.members.partly values (entry.1 :: seen)) rest := by
  obtain ⟨key, v⟩ := entry
  obtain ⟨w, w', hw, hw', hread⟩ := exists_readEntries_entry record hlead hs rest
  have hends : EndsNumber (w' ++ rest) := endsNumber_blank_append hw' hrest
  rw [hread]
  rcases hfits with ⟨scalar, hfield, hv⟩ | ⟨hopen, hunknown, hv⟩
  · have hmem : key ∈ record.members.keys := by
      rw [← hshows.map_fst]
      exact List.mem_map_of_mem (f := Prod.fst) hfield
    obtain ⟨fill, hslot, hfill⟩ := Members.slot_eq_vacant hshows hkeys hfield (hseen hmem)
    simp only [hslot, hfill v w _ hv hw hends, bind, Except.bind]
    exact readEntries_blank_append steps hw' _ _
  · rw [hshows.map_fst] at hunknown
    have hsame : record.members.partly values (key :: seen) = record.members.partly values seen :=
      Members.partly_congr _ _ (Members.mem_cons_iff_of_not_mem hunknown)
    simp only [Members.slot_eq_unknown _ hunknown, hopen, skipValue_append hv.skips hw hends, hsame,
      bind, Except.bind]
    exact readEntries_blank_append steps hw' _ _

lemma not_mem_of_count_le_one {key : String} {keys : List String}
    (h : (key :: keys ++ seen).count key ≤ 1) : key ∉ seen := by
  intro hmem
  have hpos : 0 < (keys ++ seen).count key :=
    List.count_pos_iff.mpr (List.mem_append_right keys hmem)
  rw [List.cons_append, List.count_cons_self] at h
  omega

/-- **A run over entries** adds all their keys. -/
lemma readEntries_joined (hshows : record.members.Shows values fields)
    (hkeys : record.members.keys.Nodup) {entries : List (String × List Char)} {s : List Char}
    (hs : Joined (EntryWritten TextKey) entries s)
    (hfits : ∀ entry ∈ entries, Fits fields record.closed entry)
    (honce : ∀ key ∈ record.members.keys, (entries.map Prod.fst ++ seen).count key ≤ 1)
    (hlead : Leads first lead) {steps : ℕ} (hsteps : entries.length < steps) :
    record.readEntries steps first (record.members.partly values seen) (lead ++ (s ++ '}' :: rest))
      = .ok (record.members.partly values (entries.map Prod.fst ++ seen), rest) := by
  induction hs generalizing first lead seen steps with
  | @one entry s hs =>
      obtain ⟨steps, rfl⟩ : ∃ n, steps = n + 1 + 1 := ⟨steps - 2, by simp at hsteps; omega⟩
      have hseen : entry.1 ∈ record.members.keys → entry.1 ∉ seen := by
        intro hmem
        exact not_mem_of_count_le_one (honce _ hmem)
      have hends : EndsNumber ('}' :: rest) := endsNumber_closing .object rest
      rw [readEntries_entry hshows hkeys (hfits entry List.mem_cons_self) hseen hlead hs hends]
      exact readEntries_close steps _ blank_nil
  | @more entry entries s t hs _ ih =>
      obtain ⟨steps, rfl⟩ : ∃ n, steps = n + 1 := ⟨steps - 1, by omega⟩
      have hseen : entry.1 ∈ record.members.keys → entry.1 ∉ seen := by
        intro hmem
        exact not_mem_of_count_le_one (honce _ hmem)
      have hperm : (entries.map Prod.fst ++ entry.1 :: seen).Perm
          ((entry :: entries).map Prod.fst ++ seen) := List.perm_middle
      have hsame : record.members.partly values (entries.map Prod.fst ++ entry.1 :: seen)
          = record.members.partly values ((entry :: entries).map Prod.fst ++ seen) :=
        Members.partly_congr _ _ fun key _ => hperm.mem_iff
      have hcomma : Leads false [','] := .later blank_nil
      have hmore : record.readEntries steps false (record.members.partly values (entry.1 :: seen))
          (',' :: (t ++ '}' :: rest)) = .ok (record.members.partly values _, rest) :=
        ih (fun e he => hfits e (List.mem_cons_of_mem entry he))
          (fun key hkey => by rw [hperm.count_eq]; exact honce key hkey) hcomma
          (Nat.lt_of_succ_lt_succ hsteps)
      rw [List.append_assoc, List.cons_append, readEntries_entry hshows hkeys
        (hfits entry List.mem_cons_self) hseen hlead hs (endsNumber_comma _), hmore, hsame]

lemma Joined.length_le {β : Type} {Part : β → List Char → Prop} {xs : List β} {s : List Char}
    (h : Joined Part xs s) (hpart : ∀ x s, Part x s → s ≠ []) : xs.length ≤ s.length := by
  induction h with
  | one h => exact List.length_pos_of_ne_nil (hpart _ _ h)
  | more _ _ ih =>
      simp only [List.length_cons, List.length_append]
      omega

/-- **An object** with fitting entries is read up to its end, in whichever order they stand; then the
members are collected whose keys have occurred. -/
lemma read_object (hshows : record.members.Shows values fields)
    (hkeys : record.members.keys.Nodup) {entries : List (String × List Char)}
    (hfits : ∀ entry ∈ entries, Fits fields record.closed entry)
    (honce : ∀ key ∈ record.members.keys, (entries.map Prod.fst).count key ≤ 1)
    (hw : Blank w) {s : List Char} (hs : ObjectWritten TextKey entries s) (rest : List Char) :
    record.read (w ++ (s ++ rest))
      = (do
        let values ← record.members.collect .missingField
          (record.members.partly values (entries.map Prod.fst))
        .ok (values, rest)) := by
  have hread : ∀ cs, record.readEntries (cs.length + 1) true record.members.blank cs
      = .ok (record.members.partly values (entries.map Prod.fst), rest) →
      record.read (w ++ '{' :: cs) = (do
        let values ← record.members.collect .missingField
          (record.members.partly values (entries.map Prod.fst))
        .ok (values, rest)) := by
    intro cs hcs
    simp [Record.read, hw, skipBlanks_cons (c := '{') rfl, Record.readObject, hcs, bind,
      Except.bind]
  rw [← Members.partly_nil _ values] at hread
  cases hs with
  | empty hw' =>
      rw [List.cons_append, List.append_assoc]
      exact hread _ (readEntries_close _ _ hw')
  | @filled _ s hs =>
      have hlength : entries.length ≤ s.length := by
        refine hs.length_le ?_
        rintro _ _ ⟨⟩
        simp
      rw [List.cons_append, List.append_assoc]
      refine hread _ ?_
      have hsteps : entries.length < (s ++ '}' :: rest).length + 1 := by
        simp only [List.length_append]
        omega
      have honce' : ∀ key ∈ record.members.keys, (entries.map Prod.fst ++ []).count key ≤ 1 := by
        simpa using honce
      rw [← List.append_nil (entries.map Prod.fst)]
      exact readEntries_joined hshows hkeys hs hfits honce' .first hsteps

/-- An object is taken if what it leaves out has a default. -/
lemma takes_object (hshows : record.members.Shows values fields)
    (hkeys : record.members.keys.Nodup) {entries : List (String × List Char)}
    (hfits : ∀ entry ∈ entries, Fits fields record.closed entry)
    (honce : ∀ key ∈ record.members.keys, (entries.map Prod.fst).count key ≤ 1)
    (hgiven : record.members.Given values (entries.map Prod.fst)) :
    Takes record.read values (ObjectWritten TextKey entries) := by
  intro s w rest hs hw _
  rw [read_object hshows hkeys hfits honce hw hs, Members.collect_partly _ hgiven]
  rfl

/-! ## Lists -/

lemma Scalar.Written.isValue {scalar : Scalar} {s : List Char} (h : scalar.Written s) :
    IsValue s := by
  cases h with
  | number n => exact .number (literalWritten_decimal n)
  | true => exact .true
  | false => exact .false
  | bare hbody => exact .text (TextWritten.isText hbody)
  | keyed h =>
      obtain _ | (@⟨_, _, hentry⟩ | ⟨_, ⟨⟩⟩) := h
      obtain @⟨text, body, _, w, w', _, hw, hbody, hw', hnull⟩ := hentry
      refine .object (.filled (.one (.entry hw ⟨rfl, TextWritten.isText hbody⟩ hw' hnull))) ?_
      intro entry hentry
      obtain rfl := List.mem_singleton.mp hentry
      exact .null

variable {members : Members τ σ} {missing : String → Error}

/-- Where a list ends, no member that is left can have occurred. -/
lemma readItems_close (missing : String → Error) (first : Bool) (hw : Blank w) :
    members.readItems missing first (w ++ ']' :: rest)
      = (do
        let values ← members.collect missing members.blank
        .ok (values, rest)) := by
  cases members with
  | nil => simp [Members.readItems, Members.collect, closeList_append hw, bind, Except.bind]
  | cons member others => simp [Members.readItems, nextItem_close first hw, bind, Except.bind]

/-- What is made of an item: the first member reads it, and the others go on behind it. -/
lemma exists_readItems_item {key : String} {form : Form α} {default? : Option α}
    (members : Members τ σ) (hlead : Leads first lead) {v s : List Char} (hs : Padded v s)
    (hvalue : IsValue v) (rest : List Char) :
    ∃ w, Blank w
      ∧ (Members.cons ⟨key, form, default?⟩ members).readItems missing first (lead ++ (s ++ rest))
      = (do
      let (x, rest) ← form.read (v ++ (w ++ rest))
      let (values, rest) ← members.readItems missing false rest
      .ok ((x, values), rest)) := by
  obtain @⟨w, w', hw, hw'⟩ := hs
  obtain ⟨c, cs, rfl, hc, hclose⟩ := hvalue.exists_cons
  have htext : lead ++ (w ++ (c :: cs ++ w') ++ rest)
      = lead ++ (w ++ c :: (cs ++ (w' ++ rest))) := by
    simp
  refine ⟨w', hw', ?_⟩
  rw [htext, Members.readItems, nextItem_item hlead hw hc (hclose .list)]
  rfl

/-- **One item** is the value of the first member. -/
lemma readItems_item {key : String} {form : Form α} {default? : Option α} {x : α}
    {Written : List Char → Prop} (hform : Takes form.read x Written) (hlead : Leads first lead)
    {v s : List Char} (hs : Padded v s) (hv : Written v) (hvalue : IsValue v)
    (hrest : EndsNumber rest) :
    ∃ w, Blank w
      ∧ (Members.cons ⟨key, form, default?⟩ members).readItems missing first (lead ++ (s ++ rest))
      = (do
      let (values, rest) ← members.readItems missing false (w ++ rest)
      .ok ((x, values), rest)) := by
  obtain ⟨w, hw, hitem⟩ := exists_readItems_item members hlead hs hvalue rest
  have hread := hform v [] (w ++ rest) hv blank_nil (endsNumber_blank_append hw hrest)
  rw [List.nil_append] at hread
  refine ⟨w, hw, ?_⟩
  rw [hitem, hread]
  rfl

/-- What is collected behind an item goes with its value. -/
lemma collect_behind {member : Member α} {value : α} (hkey : member.key ∉ members.keys) :
    (do
      let (others, rest) ← (do
        let values ← members.collect missing (members.partly values seen)
        .ok (values, rest) : Except Error (τ × List Char))
      .ok ((value, others), rest))
      = (do
        let values ← (Members.cons member members).collect missing
          ((Members.cons member members).partly (value, values) (member.key :: seen))
        .ok (values, rest) : Except Error ((α × τ) × List Char)) := by
  rw [Members.collect_partly_cons missing hkey]
  cases members.collect missing (members.partly values seen) <;> rfl

/-- **A run over items** fills the members from the front; the others are left to be collected. -/
lemma readItems_joined {vs : List (List Char)} {s : List Char} (hs : Joined Padded vs s)
    (hshows : members.Shows values fields) (hkeys : members.keys.Nodup)
    {front back : List (String × Scalar)} (hfields : fields = front ++ back)
    (hvs : List.Forall₂ (fun field v => field.2.Written v) front vs)
    (hlead : Leads first lead) :
    members.readItems missing first (lead ++ (s ++ ']' :: rest))
      = (do
        let values ← members.collect missing (members.partly values (front.map Prod.fst))
        .ok (values, rest)) := by
  induction hs generalizing τ σ front fields first lead with
  | @one v s hs =>
      obtain _ | ⟨hv, hnil⟩ := hvs
      cases hnil
      subst hfields
      obtain _ | ⟨hform, -, -⟩ := hshows
      rw [Members.keys, List.nodup_cons] at hkeys
      have hclose : EndsNumber (']' :: rest) := endsNumber_closing .list rest
      obtain ⟨w, hw, hitem⟩ := readItems_item (hform.takes _) hlead hs hv hv.isValue hclose
      rw [hitem, readItems_close missing false hw, ← Members.partly_nil _ _]
      exact collect_behind hkeys.1
  | @more v vs s t hs _ ih =>
      obtain _ | ⟨hv, hvs⟩ := hvs
      subst hfields
      obtain _ | ⟨hform, -, hothers⟩ := hshows
      rw [Members.keys, List.nodup_cons] at hkeys
      obtain ⟨w, hw, hitem⟩ := readItems_item (hform.takes _) hlead hs hv hv.isValue
        (endsNumber_comma (t ++ ']' :: rest))
      have hmore := ih hothers hkeys.2 rfl hvs (.later hw)
      rw [List.append_assoc, List.singleton_append] at hmore
      rw [List.append_assoc, List.cons_append, hitem, hmore]
      exact collect_behind hkeys.1

/-- **A list** of values for the members from the front is read up to its end; then the members are
collected that have one. -/
lemma read_list (hshows : record.members.Shows values fields)
    (hkeys : record.members.keys.Nodup) {front back : List (String × Scalar)}
    (hfields : fields = front ++ back) {vs : List (List Char)}
    (hvs : List.Forall₂ (fun field v => field.2.Written v) front vs) (hw : Blank w)
    {s : List Char} (hs : ListWritten vs s) (rest : List Char) :
    record.read (w ++ (s ++ rest))
      = (do
        let values ← record.members.collect record.tooShort
          (record.members.partly values (front.map Prod.fst))
        .ok (values, rest)) := by
  have hread : ∀ cs, record.read (w ++ '[' :: cs)
      = record.members.readItems record.tooShort true cs := by
    intro cs
    simp [Record.read, hw, skipBlanks_cons (c := '[') rfl]
  cases hs with
  | empty hw' =>
      cases hvs
      rw [List.cons_append, List.append_assoc, hread]
      rw [List.map_nil, Members.partly_nil]
      exact readItems_close _ true hw'
  | filled hs =>
      rw [List.cons_append, List.append_assoc, hread]
      exact readItems_joined hs hshows hkeys hfields hvs .first

/-- A list is taken if the members without a value have defaults. -/
lemma takes_list (hshows : record.members.Shows values fields)
    (hkeys : record.members.keys.Nodup) {front back : List (String × Scalar)}
    (hfields : fields = front ++ back) {vs : List (List Char)}
    (hvs : List.Forall₂ (fun field v => field.2.Written v) front vs)
    (hgiven : record.members.Given values (front.map Prod.fst)) :
    Takes record.read values (ListWritten vs) := by
  intro s w rest hs hw _
  rw [read_list hshows hkeys hfields hvs hw hs, Members.collect_partly _ hgiven]
  rfl

/-! ## Printing -/

lemma enclosed_intercalate {β : Type} {Part : β → List Char → Prop} {xs : List β}
    {texts : List (List Char)} (h : List.Forall₂ Part xs texts) (opening closing : Char) :
    Enclosed opening closing Part xs (opening :: [','].intercalate texts ++ [closing]) := by
  have hjoined : xs ≠ [] → Joined Part xs ([','].intercalate texts) := by
    intro hne
    induction h with
    | nil => contradiction
    | @cons x s xs texts hs hmore ih =>
        cases hmore with
        | nil =>
            rw [List.intercalate_singleton]
            exact .one hs
        | cons hs' hmore =>
            rw [List.intercalate_cons_cons, List.append_assoc]
            exact .more hs (ih (List.cons_ne_nil _ _))
  cases h with
  | nil => exact .empty blank_nil
  | cons => exact .filled (hjoined (List.cons_ne_nil _ _))

/-- A field of a value as it stands in an object. -/
def Entered (field : String × Scalar) (entry : String × List Char) : Prop :=
  entry.1 = field.1 ∧ field.2.Written entry.2

lemma map_fst_of_entered {own : List (String × List Char)} (h : List.Forall₂ Entered fields own) :
    own.map Prod.fst = fields.map Prod.fst := by
  induction h with
  | nil => rfl
  | cons hentered _ ih => rw [List.map_cons, List.map_cons, hentered.1, ih]

lemma exists_of_mem_entered {own : List (String × List Char)} (h : List.Forall₂ Entered fields own)
    {entry : String × List Char} (hentry : entry ∈ own) :
    ∃ scalar, (entry.1, scalar) ∈ fields ∧ scalar.Written entry.2 := by
  induction h with
  | nil => cases hentry
  | @cons field own fields owns hentered _ ih =>
      rcases List.mem_cons.mp hentry with rfl | hentry
      · exact ⟨field.2, by rw [hentered.1]; exact List.mem_cons_self, hentered.2⟩
      · obtain ⟨scalar, hmem, hwritten⟩ := ih hentry
        exact ⟨scalar, List.mem_cons_of_mem field hmem, hwritten⟩

lemma Members.Shows.exists_entries (h : members.Shows values fields) :
    ∃ entries, List.Forall₂ Entered fields entries
      ∧ List.Forall₂ (EntryWritten TextKey) entries (members.entries values) := by
  induction h with
  | nil => exact ⟨[], .nil, .nil⟩
  | @cons α τ σ key form default? scalar others value values fields hform hname _ ih =>
      obtain ⟨entries, hentered, hwritten⟩ := ih
      refine ⟨(key, form.write value) :: entries, .cons ⟨rfl, hform.written value⟩ hentered,
        .cons ?_ hwritten⟩
      exact hname.entryWritten (form.write value)

/-- What is printed is an object with exactly the fields, in the order of the members. -/
lemma exists_entries_of_write (hshows : record.members.Shows values fields) :
    ∃ entries, List.Forall₂ Entered fields entries
      ∧ ObjectWritten TextKey entries (record.write values) := by
  obtain ⟨entries, hentered, hwritten⟩ := hshows.exists_entries
  exact ⟨entries, hentered, enclosed_intercalate hwritten '{' '}'⟩

end WordCodec.Json
