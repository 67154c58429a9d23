import WordCodec.Machine.StatusFlags
import WordCodec.Proofs.Configuration
import WordCodec.Proofs.Forms

/-!
# Printing and reading back

Every type of the codec that has a form in JSON is read back from what is printed for it, whatever
the values of its operands (`forms_faithful`).  So no two values are printed alike.

What is printed is one of the texts that stand for a value: the compact one, with the fields in
their order.  Hence reading back is a case of what is known about reading such texts.
-/

namespace WordCodec

open Json

/-- **Nothing is lost in print.** -/
structure Json.Form.Faithful {α : Type} (form : Form α) : Prop where
  /-- A value is read back from its text. -/
  read_back : ∀ x, form.parse (form.print x) = .ok x
  /-- Different values have different texts. -/
  injective : Function.Injective form.print
  /-- Printing again what was read gives the same text. -/
  stable : ∀ x y, form.parse (form.print x) = .ok y → form.print y = form.print x

lemma Json.Form.faithful_of_takes {α : Type} {form : Form α}
    (h : ∀ x, ∃ Written, Takes form.read x Written ∧ Written (form.write x)) : form.Faithful := by
  have hread : ∀ x, form.parse (form.print x) = .ok x := by
    intro x
    obtain ⟨Written, htakes, hwritten⟩ := h x
    refine parse_of_takes htakes hwritten ?_
    rw [print, String.toList_ofList]
    exact .refl _
  refine ⟨hread, ?_, ?_⟩
  · intro x y hxy
    have hy := hread y
    rw [← hxy, hread x] at hy
    exact Except.ok.inj hy
  · intro x y hy
    rw [hread x] at hy
    rw [Except.ok.inj hy]

lemma Json.Form.faithful_of_outlined {α : Type} {form : Form α} {outline : α → Outline}
    (h : ∀ x, form.Outlined x (outline x)) : form.Faithful :=
  faithful_of_takes fun x => ⟨_, (h x).takes, (h x).prints⟩

/-- A scalar behind the letter of a format. -/
lemma Json.Form.Shows.behind {α β : Type} {form : Form β} {scalar : β → Scalar} {choice : Form α}
    {variants : List (Variant α)} {kind : Content} {letter : String} {wrap : β → α} {x : β} {y : α}
    (h : form.Shows scalar) (hread : choice.read = readChoice variants)
    (hvariant : findVariant variants letter = .ok (.carrying kind letter form wrap))
    (hy : wrap x = y) (hwrite : choice.write y = tagged letter (form.write x)) (hletter : Verbatim letter) :
    ∃ Written, Takes choice.read y Written ∧ Written (choice.write y) := by
  subst hy
  rw [hread, hwrite]
  exact ⟨_, takes_tag hvariant (takes_carrying kind letter wrap (h.takes x)),
    tagWritten_tagged hletter (h.written x)⟩

lemma Operation.faithful : Operation.form.Faithful := by
  refine Form.faithful_of_takes fun operation => ?_
  cases operation with
  | register op => exact RegisterOp.shows.behind rfl rfl rfl rfl (by decide)
  | immediate op => exact ImmediateOp.shows.behind rfl rfl rfl rfl (by decide)
  | branch op => exact BranchOp.shows.behind rfl rfl rfl rfl (by decide)
  | memory op => exact MemoryOp.shows.behind rfl rfl rfl rfl (by decide)

lemma StatusFlags.faithful : StatusFlags.form.Faithful := by
  refine Form.faithful_of_takes fun flags => ?_
  exact ⟨_, takes_via (shows_word32.takes flags.bits), shows_word32.written flags.bits⟩

lemma Config.faithful : Config.form.Faithful := by
  refine Form.faithful_of_takes fun config => ⟨_, takes_form config, ?_⟩
  obtain ⟨entries, hentered, hwritten⟩ := exists_entries_of_write config.shows
  have hdocument : Config.Written ⟨(some config.operandPolicy).getD .truncate,
      (some config.signExtendImmediates).getD true⟩ _ := .object (.refl _) hentered hwritten
  exact hdocument

/-- **Every form is faithful.** -/
theorem forms_faithful :
    Instruction.form.Faithful ∧ Payload.form.Faithful ∧ Operands.form.Faithful
      ∧ RegisterFields.form.Faithful ∧ ImmediateFields.form.Faithful ∧ BranchFields.form.Faithful
      ∧ MemoryFields.form.Faithful ∧ Operation.form.Faithful ∧ StatusFlags.form.Faithful
      ∧ Config.form.Faithful :=
  ⟨Form.faithful_of_outlined Instruction.outlined, Form.faithful_of_outlined Payload.outlined,
    Form.faithful_of_outlined Operands.outlined, Form.faithful_of_outlined RegisterFields.outlined,
    Form.faithful_of_outlined ImmediateFields.outlined,
    Form.faithful_of_outlined BranchFields.outlined, Form.faithful_of_outlined MemoryFields.outlined,
    Operation.faithful, StatusFlags.faithful, Config.faithful⟩

end WordCodec
