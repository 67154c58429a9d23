import WordCodec.Proofs.Json.Records

/-!
# How often a key occurs in a record

A record without defaults is only read from an object in which each of its keys occurs **exactly
once**, whatever the values under them are (`refuses_miscounted`), or from a list with **as many
values** as it has members (`refuses_list_of_length_ne`).

The members that are filled count the keys that have occurred, `Members.filled`.  An entry fills one
place, which was empty, or none (`filled_of_readEntries_entry`); so a run adds to the count of every
key how often it occurs (`filled_of_readEntries_joined`), and in the end all places have to be
filled.  In a list every value goes to the next member, so the two have to end together
(`length_of_readItems_joined`).

The values need not be what the record asks for, only values of JSON.  That is why it matters that
the readers of scalars leave the same rest as skipping does.

Where the values are the right ones the error is known too: an object is refused with the name of
the **first member** that does not occur (`read_object_without`), a short list with the number of
its values (`read_short_list`).
-/

namespace WordCodec.Json

variable {α τ σ : Type} {members : Members τ σ} {record : Record τ σ} {values : τ}
  {fields : List (String × Scalar)} {w rest lead : List Char} {first : Bool}
  {missing : String → Error}

namespace Members

/-- The keys of the members that have been read. -/
def filled {τ σ : Type} : Members τ σ → σ → List String
  | nil, _ => []
  | cons member others, (value, values) =>
    if value.isSome then member.key :: others.filled values else others.filled values

/-- No member may be left out. -/
def Required {τ σ : Type} : Members τ σ → Prop
  | nil => True
  | cons member others => member.default? = none ∧ others.Required

lemma filled_blank (members : Members τ σ) : members.filled members.blank = [] := by
  induction members with
  | nil => rfl
  | cons member others ih => exact ih

lemma filled_of_collect {slots : σ} (hrequired : members.Required)
    (h : members.collect missing slots = .ok values) : members.filled slots = members.keys := by
  induction members with
  | nil => rfl
  | cons member others ih =>
      obtain ⟨value, slots⟩ := slots
      obtain ⟨hdefault, hothers⟩ := hrequired
      rw [collect, hdefault] at h
      cases value with
      | none => cases h
      | some value =>
          obtain ⟨values, hcollect, -⟩ := exists_of_bind_eq_ok h
          simp [filled, keys, ih hothers hcollect]

/-- **The first member that has not occurred** is what is missing. -/
lemma collect_partly_of_missing (missing : String → Error) (hrequired : members.Required)
    {front back seen : List String} {key : String} (hkeys : members.keys = front ++ key :: back)
    (hfront : ∀ earlier ∈ front, earlier ∈ seen) (hkey : key ∉ seen) :
    members.collect missing (members.partly values seen) = .error (missing key) := by
  induction members generalizing front with
  | nil => simp [keys] at hkeys
  | cons member others ih =>
      obtain ⟨value, values⟩ := values
      obtain ⟨hdefault, hothers⟩ := hrequired
      cases front with
      | nil =>
          obtain ⟨rfl, -⟩ := List.cons.inj hkeys
          simp [partly, collect, hkey, hdefault]
      | cons earlier front =>
          rw [List.forall_mem_cons] at hfront
          obtain ⟨rfl, hrest⟩ := List.cons.inj hkeys
          simp [partly, collect, hfront.1, ih hothers hrest hfront.2, bind, Except.bind]

lemma not_mem_of_slot_unknown {slots : σ} {key : String}
    (h : members.slot slots key = .unknown) : key ∉ members.keys := by
  induction members with
  | nil => exact List.not_mem_nil
  | cons member others ih =>
      obtain ⟨value, slots⟩ := slots
      simp only [slot] at h
      split_ifs at h with hkey
      · cases value <;> cases h
      · cases hslot : others.slot slots key with
        | unknown =>
            rw [keys, List.mem_cons, not_or]
            exact ⟨hkey, ih hslot⟩
        | taken | vacant => simp [hslot] at h

/-- **A place that is filled** was empty before, and the rest is what skipping leaves. -/
lemma filled_of_slot_vacant {slots slots' : σ} {key : String} {fill : Reader σ} {cs : List Char}
    (hshows : members.Shows values fields) (h : members.slot slots key = .vacant fill)
    (hfill : fill cs = .ok (slots', rest)) :
    (members.filled slots').Perm (key :: members.filled slots) ∧ skipValue cs = .ok rest := by
  induction hshows generalizing rest with
  | nil => cases h
  | @cons α τ σ name form default? scalar others _ _ _ hform _ _ ih =>
      obtain ⟨value, slots⟩ := slots
      simp only [slot] at h
      split_ifs at h with hkey
      · cases value with
        | some value => cases h
        | none =>
            cases h
            obtain ⟨⟨value, after⟩, hread, hnext⟩ := exists_of_bind_eq_ok hfill
            cases hnext
            refine ⟨?_, hform.agrees cs value after hread⟩
            simp [filled, hkey]
      · cases hslot : others.slot slots key with
        | unknown | taken => simp [hslot] at h
        | vacant fill' =>
            simp only [hslot] at h
            cases h
            obtain ⟨⟨slots', after⟩, hread, hnext⟩ := exists_of_bind_eq_ok hfill
            cases hnext
            obtain ⟨hperm, hskip⟩ := ih hslot hread
            refine ⟨?_, hskip⟩
            simp only [filled]
            split_ifs
            · exact (hperm.cons name).trans (.swap _ _ _)
            · exact hperm

end Members

variable {slots slots' : σ} {rest' : List Char}

/-- **One entry** that is read fills the place of its key, if it has one. -/
lemma filled_of_readEntries_entry (hshows : record.members.Shows values fields)
    {entry : String × List Char} (hvalue : IsValue entry.2) (hlead : Leads first lead)
    {s : List Char} (hs : EntryWritten TextKey entry s) (hrest : EndsNumber rest) {steps : ℕ}
    (h : record.readEntries (steps + 1) first slots (lead ++ (s ++ rest)) = .ok (slots', rest')) :
    ∃ between, record.readEntries steps false between rest = .ok (slots', rest')
      ∧ ∀ key ∈ record.members.keys, (record.members.filled between).count key
        = [entry.1].count key + (record.members.filled slots).count key := by
  obtain ⟨key, v⟩ := entry
  obtain ⟨w, w', hw, hw', hread⟩ := exists_readEntries_entry record hlead hs rest
  have hskip : skipValue (w ++ (v ++ (w' ++ rest))) = .ok (w' ++ rest) :=
    skipValue_append hvalue.skips hw (endsNumber_blank_append hw' hrest)
  rw [hread] at h
  cases hslot : record.members.slot slots key with
  | taken => simp [hslot] at h
  | unknown =>
      simp only [hslot, hskip, bind, Except.bind] at h
      split_ifs at h
      refine ⟨slots, ?_, ?_⟩
      · rwa [readEntries_blank_append steps hw'] at h
      · intro other hother
        have hne : key ≠ other := by
          rintro rfl
          exact Members.not_mem_of_slot_unknown hslot hother
        simp [hne]
  | vacant fill =>
      simp only [hslot] at h
      obtain ⟨⟨between, after⟩, hfill, hnext⟩ := exists_of_bind_eq_ok h
      obtain ⟨hperm, hskip'⟩ := Members.filled_of_slot_vacant hshows hslot hfill
      rw [hskip] at hskip'
      cases hskip'
      refine ⟨between, ?_, ?_⟩
      · rwa [readEntries_blank_append steps hw'] at hnext
      · intro other _
        rw [hperm.count_eq, ← List.count_append, List.singleton_append]

/-- **A run over entries** counts how often each key occurs. -/
lemma filled_of_readEntries_joined (hshows : record.members.Shows values fields)
    {entries : List (String × List Char)} {s : List Char}
    (hs : Joined (EntryWritten TextKey) entries s) (hvalues : ∀ entry ∈ entries, IsValue entry.2)
    (hlead : Leads first lead) {steps : ℕ}
    (h : record.readEntries steps first slots (lead ++ (s ++ '}' :: rest)) = .ok (slots', rest')) :
    ∀ key ∈ record.members.keys, (record.members.filled slots').count key
      = (entries.map Prod.fst).count key + (record.members.filled slots).count key := by
  induction hs generalizing first lead slots steps with
  | @one entry s hs =>
      obtain _ | steps := steps
      · cases h
      obtain ⟨between, hnext, hcount⟩ := filled_of_readEntries_entry hshows
        (hvalues entry List.mem_cons_self) hlead hs (endsNumber_closing .object rest) h
      obtain _ | steps := steps
      · cases hnext
      have hclose : record.readEntries (steps + 1) false between ('}' :: rest)
          = .ok (between, rest) := readEntries_close steps between blank_nil
      rw [Frame.closing, hclose] at hnext
      cases hnext
      exact hcount
  | @more entry entries s t hs _ ih =>
      obtain _ | steps := steps
      · cases h
      rw [List.append_assoc, List.cons_append] at h
      obtain ⟨between, hnext, hcount⟩ := filled_of_readEntries_entry hshows
        (hvalues entry List.mem_cons_self) hlead hs (endsNumber_comma _) h
      have hcomma : Leads false [','] := .later blank_nil
      have hmore := ih (fun e he => hvalues e (List.mem_cons_of_mem entry he)) hcomma hnext
      intro key hkey
      have hsum : ((entry :: entries).map Prod.fst).count key
          = [entry.1].count key + (entries.map Prod.fst).count key := by
        simp [List.count_cons, Nat.add_comm]
      rw [hmore key hkey, hcount key hkey, hsum]
      omega

/-- **Left out or repeated.**  An object in which some key of the record does not occur exactly once
is refused, whatever the values are. -/
lemma refuses_miscounted (hshows : record.members.Shows values fields)
    (hkeys : record.members.keys.Nodup) (hrequired : record.members.Required)
    {entries : List (String × List Char)} (hvalues : ∀ entry ∈ entries, IsValue entry.2)
    {key : String} (hkey : key ∈ record.members.keys)
    (hcount : (entries.map Prod.fst).count key ≠ 1) :
    Refuses record.read (ObjectWritten TextKey entries) := by
  intro s w rest hs hw _
  have hread : ∀ cs, (∀ slots rest', record.readEntries (cs.length + 1) true record.members.blank cs
      = .ok (slots, rest') →
        (record.members.filled slots).count key = (entries.map Prod.fst).count key) →
      ∃ e, record.read (w ++ '{' :: cs) = .error e := by
    intro cs hcs
    cases h : record.read (w ++ '{' :: cs) with
    | error e => exact ⟨e, rfl⟩
    | ok pair =>
        simp only [Record.read, skipBlanks_append hw, skipBlanks_cons (c := '{') rfl] at h
        obtain ⟨⟨slots, after⟩, hentries, hnext⟩ := exists_of_bind_eq_ok h
        obtain ⟨values, hcollect, -⟩ := exists_of_bind_eq_ok hnext
        have hfilled := hcs slots after hentries
        rw [Members.filled_of_collect hrequired hcollect, List.count_eq_one_of_mem hkeys hkey]
          at hfilled
        exact absurd hfilled.symm hcount
  cases hs with
  | empty hw' =>
      rw [List.cons_append, List.append_assoc]
      refine hread _ fun slots rest' h => ?_
      rw [List.singleton_append, readEntries_close _ _ hw'] at h
      cases h
      rw [Members.filled_blank]
      rfl
  | filled hs =>
      rw [List.cons_append, List.append_assoc]
      refine hread _ fun slots rest' h => ?_
      rw [← List.nil_append (_ ++ _)] at h
      rw [filled_of_readEntries_joined hshows hs hvalues .first h key hkey,
        Members.filled_blank]
      rfl

/-- **An object without one of the keys** is refused with the first that it lacks, if its entries are
otherwise what the record asks for. -/
lemma read_object_without (hshows : record.members.Shows values fields)
    (hkeys : record.members.keys.Nodup) (hrequired : record.members.Required)
    {entries : List (String × List Char)}
    (hfits : ∀ entry ∈ entries, Fits fields record.closed entry)
    (honce : ∀ key ∈ record.members.keys, (entries.map Prod.fst).count key ≤ 1)
    {front back : List String} {key : String} (hnames : record.members.keys = front ++ key :: back)
    (hfront : ∀ earlier ∈ front, earlier ∈ entries.map Prod.fst)
    (hkey : key ∉ entries.map Prod.fst) (hw : Blank w) {s : List Char}
    (hs : ObjectWritten TextKey entries s) (rest : List Char) :
    record.read (w ++ (s ++ rest)) = .error (.missingField key) := by
  rw [read_object hshows hkeys hfits honce hw hs,
    Members.collect_partly_of_missing _ hrequired hnames hfront hkey]
  rfl

/-! ## Lists -/

/-- A list that goes on where it has to end is refused. -/
lemma closeList_of_starts (hlead : Leads first lead) {s : List Char} (hs : Starts s) :
    ∃ e, closeList (lead ++ s) = .error e := by
  cases hlead with
  | first =>
      obtain ⟨w, c, cs, hw, rfl, hblank, hc⟩ := hs
      rw [List.nil_append, closeList, skipBlanks_append hw, skipBlanks_cons hblank]
      split
      · exact ⟨_, rfl⟩
      · rename_i heq
        exact absurd (List.cons.inj heq).1 (hc .list)
      · split <;> exact ⟨_, rfl⟩
      · exact ⟨_, rfl⟩
  | later hw =>
      simp only [List.append_assoc, closeList, skipBlanks_append hw, List.singleton_append,
        skipBlanks_cons (c := ',') rfl]
      split <;> exact ⟨_, rfl⟩

/-- No item is left over when all members have been read. -/
lemma readItems_nil_item (hlead : Leads first lead) {v s : List Char} (hs : Padded v s)
    (hvalue : IsValue v) (rest : List Char) :
    ∃ e, Members.nil.readItems missing first (lead ++ (s ++ rest)) = .error e := by
  obtain @⟨w, w', hw, -⟩ := hs
  have hstarts := ((hvalue.starts.append w').blank_append hw).append rest
  obtain ⟨e, he⟩ := closeList_of_starts hlead hstarts
  refine ⟨e, ?_⟩
  rw [Members.readItems, he]
  rfl

/-- No member is left over when the list ends. -/
lemma keys_of_readItems_close (hrequired : members.Required) (hw : Blank w)
    {pair : τ × List Char} (h : members.readItems missing first (w ++ ']' :: rest) = .ok pair) :
    members.keys = [] := by
  rw [readItems_close missing first hw] at h
  obtain ⟨values, hcollect, -⟩ := exists_of_bind_eq_ok h
  rw [← Members.filled_of_collect hrequired hcollect, Members.filled_blank]

/-- **One item** that is read leaves the others to the other members. -/
lemma exists_of_readItems_item {key : String} {form : Form α} {default? : Option α}
    (hagrees : Agrees form.read) (hlead : Leads first lead) {v s : List Char} (hs : Padded v s)
    (hvalue : IsValue v) (hrest : EndsNumber rest) {pair : (α × τ) × List Char}
    (h : (Members.cons ⟨key, form, default?⟩ members).readItems missing first
      (lead ++ (s ++ rest)) = .ok pair) :
    ∃ w pair, Blank w ∧ members.readItems missing false (w ++ rest) = .ok pair := by
  obtain ⟨w, hw, hitem⟩ := exists_readItems_item members hlead hs hvalue rest
  rw [hitem] at h
  obtain ⟨⟨x, after⟩, hread, hnext⟩ := exists_of_bind_eq_ok h
  obtain ⟨pair, hmore, -⟩ := exists_of_bind_eq_ok hnext
  have hskip := skipValue_append hvalue.skips blank_nil (endsNumber_blank_append hw hrest)
  rw [List.nil_append, hagrees _ _ _ hread] at hskip
  cases hskip
  exact ⟨w, pair, hw, hmore⟩

/-- **A run over items** has one for every member. -/
lemma length_of_readItems_joined {vs : List (List Char)} {s : List Char} (hs : Joined Padded vs s)
    (hvalues : ∀ v ∈ vs, IsValue v) (hshows : members.Shows values fields)
    (hrequired : members.Required) (hlead : Leads first lead) {pair : τ × List Char}
    (h : members.readItems missing first (lead ++ (s ++ ']' :: rest)) = .ok pair) :
    vs.length = members.keys.length := by
  induction hs generalizing τ σ fields first lead with
  | @one v s hs =>
      have hvalue := hvalues v List.mem_cons_self
      cases hshows with
      | nil =>
          obtain ⟨e, he⟩ := readItems_nil_item hlead hs hvalue (']' :: rest)
          rw [he] at h
          cases h
      | cons hform _ _ =>
          obtain ⟨w, pair, hw, hmore⟩ := exists_of_readItems_item hform.agrees hlead hs hvalue
            (endsNumber_closing .list rest) h
          rw [Members.keys, keys_of_readItems_close hrequired.2 hw hmore]
          rfl
  | @more v vs s t hs _ ih =>
      have hvalue := hvalues v List.mem_cons_self
      rw [List.append_assoc, List.cons_append] at h
      cases hshows with
      | nil =>
          obtain ⟨e, he⟩ := readItems_nil_item hlead hs hvalue (',' :: (t ++ ']' :: rest))
          rw [he] at h
          cases h
      | cons hform _ hothers =>
          obtain ⟨w, pair, hw, hmore⟩ := exists_of_readItems_item hform.agrees hlead hs hvalue
            (endsNumber_comma _) h
          rw [← List.singleton_append, ← List.append_assoc] at hmore
          have hlength := ih (fun v hv => hvalues v (List.mem_cons_of_mem _ hv)) hothers hrequired.2
            (.later hw) hmore
          rw [Members.keys, List.length_cons, List.length_cons, hlength]

/-- **A list that is too short** is refused with its length, if the values that it does hold are those
of the first members. -/
lemma read_short_list (hshows : record.members.Shows values fields)
    (hkeys : record.members.keys.Nodup) (hrequired : record.members.Required)
    {front back : List (String × Scalar)} {field : String × Scalar}
    (hfields : fields = front ++ field :: back) {vs : List (List Char)}
    (hvs : List.Forall₂ (fun field v => field.2.Written v) front vs) (hw : Blank w)
    {s : List Char} (hs : ListWritten vs s) (rest : List Char) :
    record.read (w ++ (s ++ rest))
      = .error (.wrongLength vs.length record.title record.members.keys.length) := by
  have hnames : record.members.keys = front.map Prod.fst ++ field.1 :: back.map Prod.fst := by
    rw [← hshows.map_fst, hfields, List.map_append, List.map_cons]
  have hkey : field.1 ∉ front.map Prod.fst := by
    rw [hnames] at hkeys
    exact fun hmem => List.disjoint_of_nodup_append hkeys hmem List.mem_cons_self
  have hindex : record.members.keys.idxOf field.1 = vs.length := by
    rw [hnames, List.idxOf_append_of_notMem hkey, List.idxOf_cons_self, List.length_map,
      hvs.length_eq]
    rfl
  rw [read_list hshows hkeys hfields hvs hw hs,
    Members.collect_partly_of_missing _ hrequired hnames (fun _ => id) hkey, Record.tooShort, hindex]
  rfl

/-- **Too few or too many.**  A list with another number of values than the record has members is
refused, whatever the values are. -/
lemma refuses_list_of_length_ne (hshows : record.members.Shows values fields)
    (hrequired : record.members.Required) {vs : List (List Char)} (hvalues : ∀ v ∈ vs, IsValue v)
    (hlength : vs.length ≠ record.members.keys.length) : Refuses record.read (ListWritten vs) := by
  intro s w rest hs hw _
  cases h : record.read (w ++ (s ++ rest)) with
  | error e => exact ⟨e, rfl⟩
  | ok pair =>
      refine absurd ?_ hlength
      cases hs with
      | empty hw' =>
          rw [List.cons_append, List.append_assoc, Record.read, skipBlanks_append hw,
            skipBlanks_cons rfl] at h
          simp [keys_of_readItems_close hrequired hw' h]
      | filled hs =>
          rw [List.cons_append, List.append_assoc, Record.read, skipBlanks_append hw,
            skipBlanks_cons rfl] at h
          exact length_of_readItems_joined hs hvalues hshows hrequired .first h

end WordCodec.Json
