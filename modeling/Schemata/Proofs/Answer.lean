import Schemata.Proofs.Visiting
import Schemata.Validator

namespace Schemata

theorem Document.array?_eq_some_iff {doc : Document} {items : List Document} :
    doc.array? = some items ↔ doc = .array items := by
  cases doc <;> simp [Document.array?]

theorem Document.object?_eq_some_iff {doc : Document} {members : KeyMap Document} :
    doc.object? = some members ↔ doc = .object members := by
  cases doc <;> simp [Document.object?]

namespace Schema

/-- The sanitized document before the constraints of the node itself are checked, or why there is
none. -/
def sanitized (known : Vocabulary) (schema : Schema) (doc : Document) :
    Except ValidationError Document :=
  (schema.sanitize known doc).outcome

/-- The answer to the item of an index, seen from the array. -/
def itemAnswer (known : Vocabulary) (layout : ArrayLayout Schema) (element : Document × Nat) :
    Except ValidationError Document :=
  match layout.schema? element.2 with
  | some schema => (schema.validated known element.1).mapError (·.atIndex element.2)
  | none => .ok element.1

/-- The answer to a member of an object, seen from the object. -/
def memberAnswer (known : Vocabulary) (strict : Bool) (find? : String → Option Schema)
    (member : String × Document) : Except ValidationError (String × Document) :=
  match find? member.1 with
  | some schema => do
    let value ← (schema.validated known member.2).mapError (·.atKey member.1)
    return (member.1, value)
  | none => if strict then .error ⟨.unknownKey member.1, []⟩ else .ok member

/-- The member that stands for a named property which is not given. -/
def absentAnswer (known : Vocabulary) (given : KeyMap Document) (property : String × Schema) :
    Except ValidationError (Option (String × Document)) :=
  if given.contains property.1 then .ok none
  else match property.2.options.default? with
    | some default => do
      let value ← (property.2.validated known default).mapError (·.atKey property.1)
      return some (property.1, value)
    | none =>
      if property.2.options.required then .error ⟨.missingKey property.1, []⟩ else .ok none

variable {known : Vocabulary}

theorem validated_eq (schema : Schema) (doc : Document) :
    schema.validated known doc = do
      let value ← schema.sanitized known doc
      schema.check known value
      return value := by
  simp only [validated, validate, complete, Visit.outcome_publish, Visit.outcome_bind]
  rfl

theorem validated_eq_ok_iff {schema : Schema} {doc value : Document} :
    schema.validated known doc = .ok value ↔
      schema.sanitized known doc = .ok value ∧ schema.check known value = .ok () := by
  rw [validated_eq, bind_eq_ok_iff]
  constructor
  · rintro ⟨result, accepted, checked⟩
    obtain ⟨_, satisfied, same⟩ := bind_eq_ok_iff.mp checked
    cases same
    exact ⟨accepted, satisfied⟩
  · intro ⟨accepted, satisfied⟩
    exact ⟨value, accepted, bind_eq_ok_iff.mpr ⟨(), satisfied, rfl⟩⟩

theorem outcome_visitorAt (located : Place × Schema) (doc : Document) :
    (visitorAt known located doc).outcome = located.2.validated known doc := by
  obtain ⟨steps, schema⟩ := located
  induction steps with
  | nil => rfl
  | cons step rest ih => exact ih

theorem sanitized_leaf (kind : LeafKind) (options : Options) (doc : Document) :
    (leaf kind options).sanitized known doc = kind.sanitize known options doc := rfl

theorem sanitized_composite (name : String) (options : Options) (inner : Schema)
    (sanitizer : Option Sanitizer) (doc : Document) :
    (composite name options inner sanitizer).sanitized known doc = do
      let value ← inner.validated known doc
      match sanitizer with
      | some sanitizer => sanitizer value
      | none => return value := by
  have inside : (inner.complete known (inner.sanitize known) doc).outcome =
      inner.validated known doc := rfl
  simp only [sanitized, sanitize, Visit.outcome_bind, Visit.outcome_within, inside]
  cases sanitizer <;> rfl

theorem outcome_itemVisit (layout : ArrayLayout Schema) (element : Document × Nat) :
    (itemVisit known layout element).outcome = itemAnswer known layout element := by
  unfold itemVisit itemAnswer
  cases layout.schema? element.2 with
  | some schema => simp only [Visit.outcome_under, outcome_visitorAt]; rfl
  | none => rfl

theorem outcome_layout (layout : ArrayLayout Schema) (items : List Document) :
    ((layoutVisitors known layout).visit items).outcome =
      if items.length < layout.required then .error ⟨.sizeMismatch layout.required items.length, []⟩
      else items.zipIdx.mapM (itemAnswer known layout) := by
  rw [visit_layoutVisitors]
  split
  · rfl
  · simp only [Visit.outcome_each, outcome_itemVisit]

theorem sanitized_array (options : Options) (layout : ArrayLayout Schema) (items : List Document) :
    (array options layout).sanitized known (.array items) =
      if items.length < layout.required then .error ⟨.sizeMismatch layout.required items.length, []⟩
      else (items.zipIdx.mapM (itemAnswer known layout)).map .array := by
  simp only [sanitized, sanitize, Visit.outcome_bind, outcome_layout, Visit.outcome_pure]
  split
  · rfl
  · cases items.zipIdx.mapM (itemAnswer known layout) <;> rfl

theorem sanitized_array_mismatch (options : Options) (layout : ArrayLayout Schema) {doc : Document}
    (other : doc.array? = none) :
    (array options layout).sanitized known doc = .error (.typeMismatch "array" doc) := by
  cases doc with
  | array items => simp [Document.array?] at other
  | _ => rfl

theorem outcome_memberVisit (strict : Bool) (find? : String → Option (Place × Schema))
    (member : String × Document) :
    (memberVisit known strict find? member).outcome =
      memberAnswer known strict (fun key => (find? key).map Prod.snd) member := by
  unfold memberVisit memberAnswer
  cases found : find? member.1 with
  | some located =>
    simp only [found, Option.map_some, Visit.outcome_bind, Visit.outcome_under, outcome_visitorAt]
    rfl
  | none =>
    simp only [found, Option.map_none]
    cases strict <;> rfl

theorem outcome_absentVisit (given : KeyMap Document) (property : String × Schema) :
    (absentVisit known given property).outcome = absentAnswer known given property := by
  unfold absentVisit absentAnswer
  by_cases present : given.contains property.1 = true
  · simp only [present, ↓reduceIte]
    rfl
  · simp only [present, Bool.false_eq_true, ↓reduceIte]
    cases property.2.options.default? with
    | some default =>
      simp only [Visit.outcome_bind, Visit.outcome_under, outcome_visitorAt]
      rfl
    | none => cases property.2.options.required <;> rfl

theorem sanitized_object (options : Options) (own : Properties Schema)
    (extras : List (Properties Schema)) (members : KeyMap Document) :
    (object options own extras).sanitized known (.object members) = do
      let kept ← members.entries.mapM (memberAnswer known options.strict (resolve? own extras))
      let filled ← own.named.mapM (absentAnswer known members)
      return .object (KeyMap.overlay ⟨kept⟩ ⟨filled.filterMap id⟩) := by
  have resolved : (fun key => (locate? own extras key).map Prod.snd) = resolve? own extras :=
    funext (locate?_map_snd own extras)
  simp only [sanitized, sanitize, visitObject_rules, Visit.outcome_bind, Visit.outcome_each,
    outcome_memberVisit, resolved, outcome_absentVisit, Visit.outcome_pure, bind_assoc]
  rfl

theorem sanitized_object_mismatch (options : Options) (own : Properties Schema)
    (extras : List (Properties Schema)) {doc : Document} (other : doc.object? = none) :
    (object options own extras).sanitized known doc = .error (.typeMismatch "object" doc) := by
  cases doc with
  | object members => simp [Document.object?] at other
  | _ => rfl

end Schema

end Schemata
