import Schemata.Proofs.InPlace
import Schemata.Validator

/-!
The slot protocol: what the slots of a schema hold after a validation. Main statement: a node that
was called holds what its last call gave, and one that was not called keeps its slot, and all below
it keep theirs.
-/

namespace Schemata

/-- A slot holds what was written to it last, or else what it held before. -/
theorem Slots.get?_writeAll (slots : Slots) (entries : List Write) (place : Place) :
    (slots.writeAll entries).get? place =
      (entriesAt place entries).getLast?.getD (slots.get? place) := by
  induction entries generalizing slots with
  | nil => rfl
  | cons entry rest ih =>
    obtain ⟨here, value⟩ := entry
    rw [writeAll, List.foldl_cons, ← writeAll, ih, get?_write]
    by_cases same : place = here
    · subst same
      have first : entriesAt place ((place, value) :: rest) = value :: entriesAt place rest := by
        simp [entriesAt]
      rw [if_pos rfl, first, List.getLast?_cons]
      rfl
    · have skipped : entriesAt place ((here, value) :: rest) = entriesAt place rest := by
        simp [entriesAt, Ne.symm same]
      rw [if_neg same, skipped]

theorem getLast?_flatMap_published (answers : List (Except ValidationError Document)) :
    (answers.flatMap published).getLast? = answers.getLast?.map Except.toOption := by
  cases answers using List.reverseRecOn with
  | nil => rfl
  | append_singleton answers last =>
    cases last with
    | ok value => simp [published, Except.toOption]
    | error error => simp [published, Except.toOption]

/-- What a validation leaves in the slots of a schema, given the answers that its nodes gave. -/
structure SlotsLeft (known : Vocabulary) (schema : Schema) (answers : List Answered)
    (before after : Slots) : Prop where
  /-- Each answer is one that the node at its place gives to some document. -/
  answer : ∀ place answer, (place, answer) ∈ answers →
    ∃ node given, NodeAt schema place node ∧ answer = node.validated known given
  /-- A node that was called holds what its last call gave, and nothing if that failed. -/
  called : ∀ place earlier last, entriesAt place answers = earlier ++ [last] →
    after.get? place = last.toOption
  /-- A node that was not called holds what it held, and so do all nodes below it. -/
  uncalled : ∀ place node, NodeAt schema place node → entriesAt place answers = [] →
    ∀ further, after.get? (place ++ further) = before.get? (place ++ further)

namespace Validator

/-- A slot holds what the last call gave, or else what it held before. -/
theorem get?_after_validate (known : Vocabulary) (validator : Validator) (doc : Document)
    (place : Place) :
    (validator.validate known doc).2.slots.get? place =
      ((entriesAt place (validator.schema.answered known doc)).getLast?.map Except.toOption).getD
        (validator.slots.get? place) := by
  rw [← getLast?_flatMap_published, ← Schema.entriesAt_writes]
  exact Slots.get?_writeAll _ _ _

theorem slotsLeft (known : Vocabulary) (validator : Validator) (doc : Document) :
    SlotsLeft known validator.schema (validator.schema.answered known doc) validator.slots
      (validator.validate known doc).2.slots where
  answer _ _ := Schema.nodeAt_of_answered
  called place earlier last ends := by
    rw [get?_after_validate, ends, List.getLast?_concat]
    rfl
  uncalled place node nodeAt uncalled further := by
    -- who is not called calls nobody, so the whole subtree is left alone
    rw [get?_after_validate,
      Schema.entriesAt_further_of_uncalled nodeAt.getLast?_ne_extra uncalled]
    rfl

theorem sanitized?_after_validate (known : Vocabulary) (validator : Validator) (doc : Document) :
    (validator.validate known doc).2.sanitized? = (validator.validate known doc).1.toOption := by
  rw [sanitized?, get?_after_validate, Schema.entriesAt_answered_nil]
  rfl

/-- A validation leaves every slot as the answers given in it say, the root with its own, whether
it is told as a visit or run on the slots in place. The other two ways to validate leave the same,
and a document that is validated in place becomes what the root holds, unless it is rejected. -/
theorem slot_protocol (known : Vocabulary) (validator : Validator) (doc : Document) :
    ∃ answer after answers, validator.validate known doc = (answer, after) ∧
      validator.schema.live known [] doc ⟨validator.slots, []⟩ = (answer, ⟨after.slots, answers⟩) ∧
      answers = validator.schema.answered known doc ∧
      after.schema = validator.schema ∧
      after.sanitized? = answer.toOption ∧
      SlotsLeft known validator.schema answers validator.slots after.slots ∧
      validator.isValid known doc = (answer.isOk, after) ∧
      validator.validateInPlace known doc =
        (answer.map fun _ => (), after.sanitized?.getD doc, after) := by
  have live := validator.schema.live_root known doc validator.slots
  have root := sanitized?_after_validate known validator doc
  have left := validator.slotsLeft known doc
  refine ⟨(validator.validate known doc).1, (validator.validate known doc).2, _, rfl, live, rfl, rfl,
    root, left, rfl, ?_⟩
  rw [root, validateInPlace]
  cases ran : validator.validate known doc with
  | mk answer after =>
    cases answer with
    | ok value => rfl
    | error error => rfl

end Validator

end Schemata
