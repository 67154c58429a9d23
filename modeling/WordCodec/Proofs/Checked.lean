import Mathlib.Tactic
import WordCodec.Checked

/-!
# Laws of checked computations

A checked computation is a result with a log, and running one after another joins their logs.  The
monad laws hold, so that a chain of checks may be read step by step, and `result_bind_eq_error_iff`
says which of its steps refused.

`mapM_of_forall_succeed` is the law for programs: if a check succeeds on every item of a list and
logs nothing, then checking them all in turn succeeds with the list of the values and logs nothing.
-/

namespace WordCodec.Checked

variable {α β γ : Type}

/-- After a value the next computation runs, and its log follows. -/
lemma ok_bind (value : α) (log : List Event) (next : α → Checked β) :
    (⟨.ok value, log⟩ : Checked α) >>= next = ⟨(next value).result, log ++ (next value).log⟩ := rfl

/-- After a refusal nothing runs. -/
lemma error_bind (error : CodecError) (log : List Event) (next : α → Checked β) :
    (⟨.error error, log⟩ : Checked α) >>= next = ⟨.error error, log⟩ := rfl

@[simp] lemma succeed_bind (value : α) (next : α → Checked β) :
    succeed value >>= next = next value := by
  rw [succeed, ok_bind, List.nil_append]

/-- What a chain comes to does not depend on what its parts logged. -/
lemma result_bind (first : Checked α) (next : α → Checked β) :
    (first >>= next).result = first.result >>= fun value => (next value).result := by
  obtain ⟨error | value, log⟩ := first
  · rfl
  · rfl

/-- A chain is refused by its first part, or by what follows a value of it. -/
lemma result_bind_eq_error_iff {first : Checked α} {next : α → Checked β} {error : CodecError} :
    (first >>= next).result = .error error ↔ first.result = .error error
      ∨ ∃ value, first.result = .ok value ∧ (next value).result = .error error := by
  obtain ⟨other | value, log⟩ := first
  · rw [result_bind]
    simp only [bind, Except.bind, reduceCtorEq, false_and, exists_false, or_false,
      Except.error.injEq]
  · simp [ok_bind]

/-- The logs of a chain that goes on are joined. -/
lemma log_bind_of_ok {first : Checked α} {value : α} (h : first.result = .ok value)
    (next : α → Checked β) : (first >>= next).log = first.log ++ (next value).log := by
  obtain ⟨result, log⟩ := first
  obtain rfl : result = .ok value := h
  rfl

/-- A last step that logs nothing leaves the log as it is. -/
lemma log_bind_succeed (first : Checked α) (last : α → β) :
    (first >>= fun value => succeed (last value)).log = first.log := by
  obtain ⟨error | value, log⟩ := first
  · rfl
  · exact List.append_nil log

lemma map_id (first : Checked α) : id <$> first = first := by
  obtain ⟨error | value, log⟩ := first
  · rfl
  · exact congrArg (Checked.mk _) (List.append_nil log)

lemma bind_assoc (first : Checked α) (next : α → Checked β) (last : β → Checked γ) :
    first >>= next >>= last = first >>= fun value => next value >>= last := by
  obtain ⟨error | value, log⟩ := first
  · rfl
  · rw [ok_bind, ok_bind]
    rcases next value with ⟨error | value', log'⟩
    · rfl
    · rw [ok_bind, ok_bind, List.append_assoc]

instance : LawfulMonad Checked := LawfulMonad.mk' Checked map_id succeed_bind bind_assoc

/-- **Checks that succeed silently on every item succeed silently on the list.** -/
lemma mapM_of_forall_succeed {check : α → Checked β} {value : α → β} {items : List α}
    (h : ∀ item ∈ items, check item = succeed (value item)) :
    items.mapM check = succeed (items.map value) := by
  induction items with
  | nil => rw [List.mapM_nil, List.map_nil]; rfl
  | cons item items ih =>
      rw [List.forall_mem_cons] at h
      rw [List.mapM_cons, h.1, succeed_bind, ih h.2, succeed_bind, List.map_cons]
      rfl

end WordCodec.Checked
