import Schemata.Draft3
import Schemata.Vocabulary.Extended

namespace Schemata

/-- The options that schemas and descriptions read themselves. -/
def Options.reserved : List String :=
  [requiredKey, defaultKey, docKey, allowNilKey, strictKey, formatKey]

/-- The keywords that descriptions use themselves. -/
def Draft3.reserved : List String :=
  ["type", "title", "description", "default", "required", "format", "items", "additionalItems",
    "properties", "patternProperties", "additionalProperties"]

/-- The constraint describes itself by no keyword that descriptions use themselves. -/
def Constraint.KeepsOff (constraint : Constraint) : Prop :=
  ∀ argument, ∀ keyword ∈ Draft3.reserved, keyword ∉ (constraint.describe argument).keys

/-- No constraint goes by the name of an option that schemas read themselves. -/
def Vocabulary.KeepsOffOptions (known : Vocabulary) : Prop :=
  ∀ key ∈ Options.reserved, known.constraint? key = none

/-- No constraint describes itself by a keyword that descriptions use themselves. -/
def Vocabulary.KeepsOffKeywords (known : Vocabulary) : Prop :=
  ∀ name constraint, known.constraint? name = some constraint → constraint.KeepsOff

namespace Constraint

/-- A constraint keeps off if the keywords it uses are others, whatever the argument. -/
theorem keepsOff_of_keys {constraint : Constraint} (keywords : List String)
    (used : ∀ argument, (constraint.describe argument).keys = keywords)
    (others : ∀ keyword ∈ Draft3.reserved, keyword ∉ keywords := by decide) :
    constraint.KeepsOff := by
  intro argument keyword reserved
  rw [used]
  exact others keyword reserved

theorem keepsOff_bound (which : Bound) : (bound which).KeepsOff := by
  cases which with
  | greaterThan => exact keepsOff_of_keys ["exclusiveMinimum", "minimum"] fun _ => rfl
  | greaterThanOrEqualTo => exact keepsOff_of_keys ["minimum"] fun _ => rfl
  | lessThan => exact keepsOff_of_keys ["exclusiveMaximum", "maximum"] fun _ => rfl
  | lessThanOrEqualTo => exact keepsOff_of_keys ["maximum"] fun _ => rfl

theorem keepsOff_standard : ∀ entry ∈ standard, entry.2.KeepsOff := by
  simp only [standard, List.forall_mem_cons, List.not_mem_nil, false_implies, implies_true,
    and_true]
  exact ⟨keepsOff_bound _, keepsOff_bound _, keepsOff_bound _, keepsOff_bound _,
    keepsOff_of_keys ["enum"] fun _ => rfl, keepsOff_of_keys ["divisibleBy"] fun _ => rfl,
    keepsOff_of_keys ["divisibleBy"] fun _ => rfl, keepsOff_of_keys ["enum"] fun _ => rfl,
    keepsOff_of_keys ["minLength"] fun _ => rfl, keepsOff_of_keys ["maxLength"] fun _ => rfl,
    keepsOff_of_keys ["pattern"] fun _ => rfl, keepsOff_of_keys ["minItems"] fun _ => rfl,
    keepsOff_of_keys ["maxItems"] fun _ => rfl, keepsOff_of_keys ["uniqueItems"] fun _ => rfl⟩

theorem keepsOff_universal : universal.KeepsOff :=
  keepsOff_of_keys ["maximum", "minimum"] fun _ => rfl

theorem keepsOff_kindNamed : kindNamed.KeepsOff := keepsOff_of_keys [] fun _ => rfl

end Constraint

namespace Vocabulary

theorem extended_keepsOffOptions : extended.KeepsOffOptions := by
  simp only [KeepsOffOptions, Options.reserved, List.forall_mem_cons, List.not_mem_nil,
    false_implies, implies_true, and_true]
  exact ⟨rfl, rfl, rfl, rfl, rfl, rfl⟩

theorem extended_keepsOffKeywords : extended.KeepsOffKeywords := by
  intro name constraint found
  obtain ⟨before, after, split, _⟩ := List.lookup_eq_some_iff.mp found
  have member : (name, constraint) ∈ extended.constraints := by simp [split]
  rcases List.mem_cons.mp member with same | member
  · cases same
    exact Constraint.keepsOff_kindNamed
  · rcases List.mem_cons.mp member with same | member
    · cases same
      exact Constraint.keepsOff_universal
    · exact Constraint.keepsOff_standard _ member

end Vocabulary

end Schemata
