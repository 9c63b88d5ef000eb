import Schemata.Document
import Schemata.Json

/-!
Induction on documents and on JSON values, both of which hold their own kind in lists and in maps:
what passes from the parts to the whole holds of all.
-/

namespace Schemata

theorem KeyMap.sizeOf_lt_of_mem [SizeOf α] {map : KeyMap α} {key : String} {value : α}
    (member : (key, value) ∈ map.entries) : sizeOf value < sizeOf map := by
  have smaller := List.sizeOf_lt_of_mem member
  cases map
  simp only [Prod.mk.sizeOf_spec, KeyMap.mk.sizeOf_spec] at smaller ⊢
  omega

namespace Document

/-- What passes from the parts of a document to the document holds of all documents. -/
@[elab_as_elim]
theorem induction {motive : Document → Prop} (null : motive null) (bool : ∀ b, motive (bool b))
    (integer : ∀ n, motive (integer n)) (float : ∀ x, motive (float x))
    (string : ∀ text, motive (string text)) (dateTime : ∀ moment, motive (dateTime moment))
    (address : ∀ place, motive (address place))
    (array : ∀ items, (∀ item ∈ items, motive item) → motive (array items))
    (object : ∀ members, (∀ key value, (key, value) ∈ members.entries → motive value) →
      motive (object members)) (doc : Document) : motive doc := by
  cases doc with
  | null => exact null
  | bool b => exact bool b
  | integer n => exact integer n
  | float x => exact float x
  | string text => exact string text
  | dateTime moment => exact dateTime moment
  | address place => exact address place
  | array items =>
    apply array
    intro item member
    exact induction null bool integer float string dateTime address array object item
  | object members =>
    apply object
    intro key value member
    exact induction null bool integer float string dateTime address array object value
termination_by sizeOf doc
decreasing_by
  · have smaller := List.sizeOf_lt_of_mem member
    rw [Document.array.sizeOf_spec]
    omega
  · have smaller := KeyMap.sizeOf_lt_of_mem member
    rw [Document.object.sizeOf_spec]
    omega

end Document

namespace Json

/-- What passes from the parts of a JSON value to the value holds of all values. -/
@[elab_as_elim]
theorem induction {motive : Json → Prop} (null : motive null) (bool : ∀ b, motive (bool b))
    (number : ∀ n, motive (number n)) (string : ∀ text, motive (string text))
    (array : ∀ items, (∀ item ∈ items, motive item) → motive (array items))
    (object : ∀ members, (∀ key value, (key, value) ∈ members.entries → motive value) →
      motive (object members)) (value : Json) : motive value := by
  cases value with
  | null => exact null
  | bool b => exact bool b
  | number n => exact number n
  | string text => exact string text
  | array items =>
    apply array
    intro item member
    exact induction null bool number string array object item
  | object members =>
    apply object
    intro key value member
    exact induction null bool number string array object value
termination_by sizeOf value
decreasing_by
  · have smaller := List.sizeOf_lt_of_mem member
    rw [Json.array.sizeOf_spec]
    omega
  · have smaller := KeyMap.sizeOf_lt_of_mem member
    rw [Json.object.sizeOf_spec]
    omega

end Json

end Schemata
