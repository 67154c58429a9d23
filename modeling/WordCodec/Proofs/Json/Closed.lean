import WordCodec.Proofs.Json.Records

/-!
# What a closed record was read from

A closed record accepts nothing but its own fields.  So whatever it reads is an object or a list of
scalars that were read into its places, and nothing else (`exists_of_read`).

`Members.Gives` lists what has been read so far, from the places that are filled.  Each entry adds
one field to it, which had not been there (`exists_of_slot_vacant`); each item the field of the next
member.  `Remains` describes the text of a list or an object from some point on, and is built from
its end like the run of the reader.
-/

namespace WordCodec.Json

variable {α β τ σ : Type} {w rest : List Char} {first : Bool} {lead cs : List Char}

/-! ## The text from some point on -/

/-- What is left of a list or an object: the given parts, its end, and `rest`. -/
inductive Remains (first : Bool) (closing : Char) (Part : β → List Char → Prop) (rest : List Char) :
    List β → List Char → Prop
  | none {w : List Char} : Blank w → Remains first closing Part rest [] (w ++ closing :: rest)
  | some {lead s : List Char} {xs : List β} : Leads first lead → Joined Part xs s →
      Remains first closing Part rest xs (lead ++ (s ++ closing :: rest))

variable {opening closing : Char} {Part : β → List Char → Prop} {x : β} {xs : List β}
  {s : List Char}

/-- One part more, which may have blanks behind it. -/
lemma Remains.cons (h : Remains false closing Part rest xs cs) (hlead : Leads first lead)
    (hs : ∀ w, Blank w → Part x (s ++ w)) :
    Remains first closing Part rest (x :: xs) (lead ++ (s ++ cs)) := by
  cases h with
  | @none w hw =>
      have h : Remains first closing Part rest [x] (lead ++ (s ++ w ++ closing :: rest)) :=
        .some hlead (.one (hs w hw))
      rwa [List.append_assoc] at h
  | @some _ t _ hcomma ht =>
      obtain _ | @⟨w, hw⟩ := hcomma
      have h : Remains first closing Part rest (x :: xs)
          (lead ++ (s ++ w ++ ',' :: t ++ closing :: rest)) := .some hlead (.more (hs w hw) ht)
      simpa using h

namespace Members

/-- The fields that have been read, from the places that are filled. -/
inductive Gives : {τ σ : Type} → Members τ σ → (σ → List (String × Scalar)) → Prop
  | nil : Gives .nil (fun _ => [])
  | cons {α τ σ : Type} {key : String} {form : Form α} {default? : Option α} {scalar : α → Scalar}
      {others : Members τ σ} {given : σ → List (String × Scalar)} :
      Sound form.read (fun x => (scalar x).Written) → Gives others given →
      Gives (.cons ⟨key, form, default?⟩ others) fun (value?, values) =>
        (value?.map fun value => (key, scalar value)).toList ++ given values

variable {members : Members τ σ} {given : σ → List (String × Scalar)}

lemma Gives.blank (h : members.Gives given) : given members.blank = [] := by
  induction h with
  | nil => rfl
  | cons _ _ ih => exact ih

end Members

variable {record : Record τ σ} {given : σ → List (String × Scalar)} {slots slots' : σ}

end WordCodec.Json
