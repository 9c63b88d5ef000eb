import Schemata.Proofs.SlotProtocol

/-!
Histories: what may be asked of a validator, one request after the other. Main statement: no reply
depends on what the slots held before, and no request leaves anything behind but slots.
-/

namespace Schemata

inductive Request where
  | validate (doc : Document)
  | isValid (doc : Document)
  | validateInPlace (doc : Document)
  | sanitize (doc : Document)
  | reset

inductive Reply where
  | answer (outcome : Except ValidationError Document)
  | verdict (accepted : Bool)
  | replaced (outcome : Except ValidationError Unit) (doc : Document)
  | done

namespace Validator

/-- The reply to a request, and the validator after it. -/
def perform (known : Vocabulary) (validator : Validator) : Request → Reply × Validator
  | .validate doc =>
    let (answer, after) := validator.validate known doc
    (.answer answer, after)
  | .isValid doc =>
    let (accepted, after) := validator.isValid known doc
    (.verdict accepted, after)
  | .validateInPlace doc =>
    let (outcome, doc, after) := validator.validateInPlace known doc
    (.replaced outcome doc, after)
  | .sanitize doc =>
    let (outcome, after) := validator.sanitize known doc
    (.answer outcome, after)
  | .reset => (.done, validator.reset)

/-- The replies to requests, each made of what the one before has left. -/
def performAll (known : Vocabulary) (validator : Validator) :
    List Request → List Reply × Validator
  | [] => ([], validator)
  | request :: rest =>
    let (reply, after) := validator.perform known request
    let (replies, last) := performAll known after rest
    (reply :: replies, last)

end Validator

/-- Two runs leave the same in a slot, or both leave it as it was. -/
def SameOrKept (before after before' after' : Slots) : Prop :=
  ∀ place, after.get? place = after'.get? place ∨
    after.get? place = before.get? place ∧ after'.get? place = before'.get? place

theorem sameOrKept_writeAll (slots other : Slots) (entries : List Write) :
    SameOrKept slots (slots.writeAll entries) other (other.writeAll entries) := by
  intro place
  rw [Slots.get?_writeAll, Slots.get?_writeAll]
  cases (entriesAt place entries).getLast? with
  | some last => exact .inl rfl
  | none => exact .inr ⟨rfl, rfl⟩

namespace Schema

/-- Two runs of a node on slots in place give the same answer, and leave the same wherever they
leave anything. -/
theorem live_sameOrKept (known : Vocabulary) (schema : Schema) (place : Place) (doc : Document)
    (left right : Work) :
    (schema.live known place doc left).1 = (schema.live known place doc right).1 ∧
      SameOrKept left.slots (schema.live known place doc left).2.slots
        right.slots (schema.live known place doc right).2.slots := by
  rw [liveAs known schema place doc left, liveAs known schema place doc right]
  exact ⟨rfl, sameOrKept_writeAll _ _ _⟩

/-- A run leaves its answer in the slot of the node. -/
theorem get?_live (known : Vocabulary) (schema : Schema) (place : Place) (doc : Document)
    (work : Work) :
    (schema.live known place doc work).2.slots.get? place =
      (schema.validated known doc).toOption := by
  have own := entriesAt_below place [] (schema.validate known doc).writes
  rw [List.append_nil] at own
  rw [liveAs known schema place doc work, Slots.get?_writeAll, own, entriesAt_writes,
    getLast?_flatMap_published, entriesAt_answered_nil]
  rfl

end Schema

namespace Validator

/-- A request is answered by the schema alone, and leaves it as it is. -/
theorem perform_forgets (known : Vocabulary) (schema : Schema) (slots other : Slots)
    (request : Request) :
    ((⟨schema, slots⟩ : Validator).perform known request).1 =
        ((⟨schema, other⟩ : Validator).perform known request).1 ∧
      ((⟨schema, slots⟩ : Validator).perform known request).2.schema = schema := by
  cases request with
  | validate doc => exact ⟨rfl, rfl⟩
  | isValid doc => exact ⟨rfl, rfl⟩
  | validateInPlace doc =>
    simp only [perform, validateInPlace, validate]
    cases (schema.validate known doc).outcome with
    | ok value => exact ⟨rfl, rfl⟩
    | error error => exact ⟨rfl, rfl⟩
  | sanitize doc => exact ⟨rfl, rfl⟩
  | reset => exact ⟨rfl, rfl⟩

theorem performAll_forgets (known : Vocabulary) (schema : Schema) (slots : Slots)
    (history : List Request) :
    ((⟨schema, slots⟩ : Validator).performAll known history).1 =
        history.map (fun request => ((⟨schema, .empty⟩ : Validator).perform known request).1) ∧
      ((⟨schema, slots⟩ : Validator).performAll known history).2.schema = schema := by
  induction history generalizing slots with
  | nil => exact ⟨rfl, rfl⟩
  | cons request rest ih =>
    -- the slots a request leaves are unknown, which is why the induction is over all slots
    obtain ⟨reply, same⟩ := perform_forgets known schema slots .empty request
    rw [performAll, List.map_cons, ← reply]
    rcases ran : (⟨schema, slots⟩ : Validator).perform known request with ⟨answer, kept, left⟩
    rw [ran] at same
    cases same
    obtain ⟨replies, last⟩ := ih left
    exact ⟨congrArg _ replies, last⟩

/-- No answer depends on history. Two runs of a node on different slots, wherever the node is, give
the same answer, leave the same in its slot and differ nowhere but in what both leave alone. A
validator replies to each of a sequence of requests as if it were new, and is new again once its
slots are emptied. -/
theorem history_irrelevant (known : Vocabulary) (schema : Schema) (slots other : Slots)
    (doc : Document) (history : List Request) :
    let fresh : Validator := ⟨schema, .empty⟩
    let left : Validator := ⟨schema, slots⟩
    let right : Validator := ⟨schema, other⟩
    let leftRun place := schema.live known place doc ⟨slots, []⟩
    let rightRun place := schema.live known place doc ⟨other, []⟩
    (∀ place, (leftRun place).1 = (rightRun place).1 ∧
      (leftRun place).2.slots.get? place = (rightRun place).2.slots.get? place ∧
      SameOrKept slots (leftRun place).2.slots other (rightRun place).2.slots) ∧
    (left.validate known doc).1 = (right.validate known doc).1 ∧
    (left.validate known doc).2.sanitized? = (right.validate known doc).2.sanitized? ∧
    (left.performAll known history).1 =
      history.map (fun request => (fresh.perform known request).1) ∧
    (left.performAll known history).2.schema = schema ∧
    (left.performAll known history).2.reset = fresh := by
  intro fresh left right leftRun rightRun
  refine ⟨fun place => ?_, rfl, ?_, ?_⟩
  · obtain ⟨answer, slots⟩ := schema.live_sameOrKept known place doc ⟨slots, []⟩ ⟨other, []⟩
    refine ⟨answer, ?_, slots⟩
    exact (schema.get?_live known place doc _).trans (schema.get?_live known place doc _).symm
  · rw [sanitized?_after_validate, sanitized?_after_validate]
    rfl
  · obtain ⟨replies, same⟩ := performAll_forgets known schema slots history
    exact ⟨replies, same, congrArg (Validator.mk · .empty) same⟩

end Validator

end Schemata
