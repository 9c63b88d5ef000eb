import Schemata.Proofs.Answer

namespace Schemata

section

variable (known : Vocabulary) (layout : ArrayLayout Schema) (items : List Document)

/-- The items after their schemas have looked at them; what has no schema is as it was. -/
structure ItemsSanitized (values : List Document) : Prop where
  size : values.length = items.length
  matched : ∀ index item schema, items[index]? = some item → layout.schema? index = some schema →
    ∃ value, values[index]? = some value ∧ schema.validated known item = .ok value
  kept : ∀ index, layout.schema? index = none → values[index]? = items[index]?

/-- The item of least index that its schema rejects. -/
structure ItemRejected (index : Nat) (error : ValidationError) : Prop where
  rejected : ∃ item schema, items[index]? = some item ∧ layout.schema? index = some schema ∧
    schema.validated known item = .error error
  earlier : ∀ other < index, ∀ item schema, items[other]? = some item →
    layout.schema? other = some schema → ∃ value, schema.validated known item = .ok value

end

/-- The answer of an array whose items have to match a layout. -/
inductive ArrayAnswer (known : Vocabulary) (layout : ArrayLayout Schema) :
    Document → Except ValidationError Document → Prop where
  | mismatch (other : doc.array? = none) :
      ArrayAnswer known layout doc (.error (.typeMismatch "array" doc))
  | short (fewer : items.length < layout.required) :
      ArrayAnswer known layout (.array items)
        (.error ⟨.sizeMismatch layout.required items.length, []⟩)
  | rejected (enough : layout.required ≤ items.length)
      (first : ItemRejected known layout items index error) :
      ArrayAnswer known layout (.array items) (.error (error.atIndex index))
  | accepted (enough : layout.required ≤ items.length)
      (sanitized : ItemsSanitized known layout items values) :
      ArrayAnswer known layout (.array items) (.ok (.array values))

namespace Schema

variable {known : Vocabulary} {layout : ArrayLayout Schema} {items : List Document}

theorem itemAnswer_eq_ok_iff {item value : Document} {index : Nat} :
    itemAnswer known layout (item, index) = .ok value ↔
      (∀ schema, layout.schema? index = some schema → schema.validated known item = .ok value) ∧
        (layout.schema? index = none → item = value) := by
  unfold itemAnswer
  cases layout.schema? index with
  | none => simp
  | some schema => simp [mapError_eq_ok_iff]

theorem itemAnswer_eq_error_iff {item : Document} {index : Nat} {error : ValidationError} :
    itemAnswer known layout (item, index) = .error error ↔
      ∃ schema fault, layout.schema? index = some schema ∧
        schema.validated known item = .error fault ∧ fault.atIndex index = error := by
  unfold itemAnswer
  cases layout.schema? index with
  | none => simp
  | some schema => simp [mapError_eq_error_iff]

theorem mapM_itemAnswer_eq_ok_iff {values : List Document} :
    items.zipIdx.mapM (itemAnswer known layout) = .ok values ↔
      ItemsSanitized known layout items values := by
  rw [mapM_eq_ok_iff_getElem?, List.length_zipIdx]
  constructor
  · intro ⟨size, answers⟩
    have answer (index : Nat) (item : Document) (here : items[index]? = some item) :=
      answers index (item, index) (by simp [List.getElem?_zipIdx, here])
    -- an index without a schema may lie beyond the items, on both sides alike
    refine ⟨size, fun index item schema here place => ?_, fun index open_ => ?_⟩
    · obtain ⟨value, there, accepted⟩ := answer index item here
      exact ⟨value, there, (itemAnswer_eq_ok_iff.mp accepted).1 schema place⟩
    · cases here : items[index]? with
      | none =>
        rw [List.getElem?_eq_none_iff] at here ⊢
        omega
      | some item =>
        obtain ⟨value, there, accepted⟩ := answer index item here
        rw [there, (itemAnswer_eq_ok_iff.mp accepted).2 open_]
  · intro sanitized
    refine ⟨sanitized.size, fun index element here => ?_⟩
    obtain ⟨item, present, same⟩ : ∃ item, items[index]? = some item ∧ (item, index) = element := by
      simpa [List.getElem?_zipIdx] using here
    subst same
    cases place : layout.schema? index with
    | none =>
      refine ⟨item, (sanitized.kept index place).trans present, itemAnswer_eq_ok_iff.mpr ?_⟩
      simp [place]
    | some schema =>
      obtain ⟨value, there, accepted⟩ := sanitized.matched index item schema present place
      refine ⟨value, there, itemAnswer_eq_ok_iff.mpr ?_⟩
      simp [place, accepted]

theorem mapM_itemAnswer_eq_error_iff {error : ValidationError} :
    items.zipIdx.mapM (itemAnswer known layout) = .error error ↔
      ∃ index fault, ItemRejected known layout items index fault ∧ fault.atIndex index = error := by
  rw [mapM_eq_error_iff_getElem?]
  constructor
  · rintro ⟨index, element, here, rejected, earlier⟩
    obtain ⟨item, present, same⟩ : ∃ item, items[index]? = some item ∧ (item, index) = element := by
      simpa [List.getElem?_zipIdx] using here
    subst same
    obtain ⟨schema, fault, place, refused, same⟩ := itemAnswer_eq_error_iff.mp rejected
    refine ⟨index, fault, ⟨⟨item, schema, present, place, refused⟩, ?_⟩, same⟩
    intro other less item schema here place
    have element : items.zipIdx[other]? = some (item, other) := by
      simp [List.getElem?_zipIdx, here]
    obtain ⟨value, accepted⟩ := earlier other less (item, other) element
    exact ⟨value, (itemAnswer_eq_ok_iff.mp accepted).1 schema place⟩
  · rintro ⟨index, fault, ⟨⟨item, schema, present, place, refused⟩, earlier⟩, same⟩
    refine ⟨index, (item, index), by simp [List.getElem?_zipIdx, present],
      itemAnswer_eq_error_iff.mpr ⟨schema, fault, place, refused, same⟩, ?_⟩
    intro other less element here
    obtain ⟨item, present, same⟩ : ∃ item, items[other]? = some item ∧ (item, other) = element := by
      simpa [List.getElem?_zipIdx] using here
    subst same
    cases place : layout.schema? other with
    | none => exact ⟨item, itemAnswer_eq_ok_iff.mpr (by simp [place])⟩
    | some schema =>
      obtain ⟨value, accepted⟩ := earlier other less item schema present place
      exact ⟨value, itemAnswer_eq_ok_iff.mpr (by simp [place, accepted])⟩

theorem sanitized_array_eq_iff (options : Options) {doc : Document}
    {answer : Except ValidationError Document} :
    (array options layout).sanitized known doc = answer ↔ ArrayAnswer known layout doc answer := by
  constructor
  · intro same
    subst same
    cases kind : doc.array? with
    | none => exact sanitized_array_mismatch options layout kind ▸ .mismatch kind
    | some items =>
      obtain rfl := Document.array?_eq_some_iff.mp kind
      rw [sanitized_array]
      split
      · next fewer => exact .short fewer
      · next enough =>
        cases outcome : items.zipIdx.mapM (itemAnswer known layout) with
        | error error =>
          obtain ⟨index, fault, first, same⟩ := mapM_itemAnswer_eq_error_iff.mp outcome
          exact same ▸ .rejected (Nat.le_of_not_lt enough) first
        | ok values =>
          exact .accepted (Nat.le_of_not_lt enough) (mapM_itemAnswer_eq_ok_iff.mp outcome)
  · intro rule
    cases rule with
    | mismatch other => exact sanitized_array_mismatch options layout other
    | short fewer => simp [sanitized_array, fewer]
    | rejected enough first =>
      have outcome := mapM_itemAnswer_eq_error_iff.mpr ⟨_, _, first, rfl⟩
      simp [sanitized_array, Nat.not_lt.mpr enough, outcome, Except.map]
    | accepted enough sanitized =>
      have outcome := mapM_itemAnswer_eq_ok_iff.mpr sanitized
      simp [sanitized_array, Nat.not_lt.mpr enough, outcome, Except.map]

end Schema

end Schemata
