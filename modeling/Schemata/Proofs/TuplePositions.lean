import Schemata.Proofs.Hiding

namespace Schemata

namespace Draft3

/-- What a keyword that takes a list lists at an index. -/
def listedAt? (description : Description) (keyword : String) (index : Nat) : Option Json :=
  match description.get? keyword with
  | some (.array items) => items[index]?
  | _ => none

/-- How many of the schemas before a position are not hidden. -/
def visibleBefore (schemas : List Schema) (position : Nat) : Nat :=
  (schemas.take position).countP fun schema => !schema.isHidden

/-- Every entry shows the schema that the array has for the items of its index; those of further
items are counted from the last item that has to be there. -/
structure KeepsPositions (known : Vocabulary) (layout : ArrayLayout Schema)
    (description : Description) : Prop where
  items : ∀ index entry, listedAt? description "items" index = some entry →
    ∃ schema, layout.schema? index = some schema ∧ ofSchema? known schema = some entry
  further : ∀ index entry, listedAt? description "additionalItems" index = some entry →
    ∃ schema, layout.schema? (layout.required + index) = some schema ∧
      ofSchema? known schema = some entry

/-- The description of an array lists schemas at indices that are not their positions. -/
def Shifts (known : Vocabulary) (layout : ArrayLayout Schema) : Prop :=
  ∃ description, describe? known (.ofLayout layout .empty) = some description ∧
    ¬KeepsPositions known layout description

/-- A hidden schema leaves its index to the next. -/
theorem shifts_past_hidden :
    let hidden : Schema := .ofLeaf .boolean (KeyMap.empty.insert "doc" (.bool false))
    Shifts .extended
      (.positional [.ofLeaf .integer .empty, hidden, .ofLeaf .string .empty] []) ∧
    Shifts .extended
      (.positional [] [.ofLeaf .integer .empty, hidden, .ofLeaf .string .empty]) := by
  refine ⟨⟨_, rfl, fun keeps => ?_⟩, ⟨_, rfl, fun keeps => ?_⟩⟩
  · obtain ⟨schema, place, shown⟩ := keeps.items 1 _ rfl
    cases place
    cases shown
  · obtain ⟨schema, place, shown⟩ := keeps.further 1 _ rfl
    cases place
    cases shown

section

variable {known : Vocabulary} {schemas : List Schema} {index position : Nat} {entry : Json}

theorem visibleBefore_succ (schema : Schema) (rest : List Schema) (position : Nat) :
    visibleBefore (schema :: rest) (position + 1) =
      visibleBefore rest position + if schema.isHidden then 0 else 1 := by
  rw [visibleBefore, List.take_succ_cons, List.countP_cons, visibleBefore]
  cases schema.isHidden <;> rfl

theorem ofSchema?_of_hidden {schema : Schema} (hidden : schema.isHidden = true) :
    ofSchema? known schema = none := by
  rw [ofSchema?, describe?_of_hidden hidden]
  rfl

/-- An entry stands where the schemas that are not hidden count up to it. -/
theorem getElem?_describeAll :
    (describeAll known schemas)[index]? = some entry ↔ ∃ position schema,
      schemas[position]? = some schema ∧ visibleBefore schemas position = index ∧
        ofSchema? known schema = some entry := by
  induction schemas generalizing index with
  | nil => simp [describeAll]
  | cons schema rest ih =>
    rw [← Nat.or_exists_add_one]
    simp only [List.getElem?_cons_zero, List.getElem?_cons_succ, visibleBefore_succ]
    cases described : describe? known schema with
    | none =>
      have hidden := describe?_eq_none_iff.mp described
      rw [describeAll, described, ih]
      simp [hidden, ofSchema?_of_hidden]
    | some description =>
      have shown : schema.isHidden = false := by
        rw [← Bool.not_eq_true, ← @describe?_eq_none_iff known, described]
        exact nofun
      rw [describeAll, described]
      cases index with
      | zero => simp [visibleBefore, shown, ofSchema?, described]
      | succ index => simp [visibleBefore, shown, ih]

/-- Where nothing is hidden up to an index, the position is the index. -/
theorem eq_of_visibleBefore (shown : ∀ schema ∈ schemas.take (index + 1), schema.isHidden = false)
    (inside : position < schemas.length) (count : visibleBefore schemas position = index) :
    position = index := by
  have counted {bound : Nat} (early : bound ≤ index + 1) :
      visibleBefore schemas bound = min bound schemas.length := by
    rw [visibleBefore, List.countP_eq_length.mpr, List.length_take]
    intro schema member
    simp [shown schema (List.take_subset_take_left schemas early member)]
  rcases Nat.lt_or_ge index position with after | before
  · -- the schemas up to the index already count one too many
    have enough : visibleBefore schemas (index + 1) ≤ visibleBefore schemas position :=
      (List.take_sublist_take_left after).countP_le
    rw [counted (Nat.le_refl _)] at enough
    omega
  · rw [counted (Nat.le_succ_of_le before)] at count
    omega

end

section

variable {description : Description} {entries : List Json} {keyword other : String} {index : Nat}

theorem get?_insertList_of_ne (different : other ≠ keyword) :
    (insertList keyword entries description).get? other = description.get? other :=
  get?_insert_unless different

theorem listedAt?_insertList (fresh : description.get? keyword = none) :
    listedAt? (insertList keyword entries description) keyword index = entries[index]? := by
  unfold insertList listedAt?
  by_cases empty : entries.isEmpty = true
  · rw [if_pos empty, fresh, List.isEmpty_iff.mp empty, List.getElem?_nil]
  · rw [if_neg empty, KeyMap.get?_insert, if_pos rfl]

theorem listedAt?_congr {description' : Description}
    (same : description'.get? keyword = description.get? keyword) :
    listedAt? description' keyword index = listedAt? description keyword index := by
  rw [listedAt?, listedAt?, same]

end

/-- Neither documentation nor options change what is listed. -/
theorem listedAt?_describe? {known : Vocabulary} (keepsOff : known.KeepsOffKeywords)
    {options : Options} {items extraItems : List Schema} {description : Description}
    (described : describe? known (.array options (.positional items extraItems)) =
      some description) (index : Nat) :
    listedAt? description "items" index = (describeAll known items)[index]? ∧
      listedAt? description "additionalItems" index = (describeAll known extraItems)[index]? := by
  have kept {keyword : String} (reserved : keyword ∈ Draft3.reserved)
      (other : keyword ≠ "title" ∧ keyword ≠ "description" ∧ keyword ≠ "default") :
      listedAt? description keyword index =
        listedAt? (describeLayout known (.positional items extraItems)) keyword index :=
    listedAt?_congr (get?_describe? keepsOff described rfl reserved other)
  constructor
  · rw [kept (by decide) (by decide), describeLayout,
      listedAt?_congr (get?_insertList_of_ne (by decide)), listedAt?_insertList rfl]
  · rw [kept (by decide) (by decide), describeLayout, listedAt?_insertList]
    rw [get?_insertList_of_ne (by decide)]
    rfl

/-- An index under `items`, or under `additionalItems`, shows the schema of the position before
which as many are not hidden; that is the position of the index as long as none up to there is
hidden. -/
theorem describe?_positions {known : Vocabulary} (keepsOff : known.KeepsOffKeywords)
    {options : Options} {items extraItems : List Schema} {description : Description}
    (described : describe? known (.array options (.positional items extraItems)) =
      some description) :
    let schema? := (ArrayLayout.positional items extraItems).schema?
    (∀ index entry, listedAt? description "items" index = some entry ↔
      ∃ position schema, position < items.length ∧ visibleBefore items position = index ∧
        schema? position = some schema ∧ ofSchema? known schema = some entry) ∧
    (∀ index entry, listedAt? description "additionalItems" index = some entry ↔
      ∃ position schema, visibleBefore extraItems position = index ∧
        schema? (items.length + position) = some schema ∧
        ofSchema? known schema = some entry) ∧
    (∀ index entry, (∀ schema ∈ items.take (index + 1), schema.isHidden = false) →
      listedAt? description "items" index = some entry →
        ∃ schema, schema? index = some schema ∧ ofSchema? known schema = some entry) ∧
    (∀ index entry, (∀ schema ∈ extraItems.take (index + 1), schema.isHidden = false) →
      listedAt? description "additionalItems" index = some entry →
        ∃ schema, schema? (items.length + index) = some schema ∧
          ofSchema? known schema = some entry) := by
  intro schema?
  -- positions of further items are counted from the last item that has to be there
  have near {position : Nat} (inside : position < items.length) :
      schema? position = items[position]? := List.getElem?_append_left inside
  have far (position : Nat) : schema? (items.length + position) = extraItems[position]? := by
    show (items ++ extraItems)[items.length + position]? = _
    rw [List.getElem?_append_right (Nat.le_add_right _ _), Nat.add_sub_cancel_left]
  have listed (index : Nat) := listedAt?_describe? keepsOff described index
  refine ⟨fun index entry => ?_, fun index entry => ?_, fun index entry shown there => ?_,
    fun index entry shown there => ?_⟩
  · rw [(listed index).1, getElem?_describeAll]
    constructor
    · rintro ⟨position, schema, here, count, described⟩
      have inside := (List.getElem?_eq_some_iff.mp here).1
      exact ⟨position, schema, inside, count, (near inside).trans here, described⟩
    · rintro ⟨position, schema, inside, count, here, described⟩
      exact ⟨position, schema, (near inside).symm.trans here, count, described⟩
  · rw [(listed index).2, getElem?_describeAll]
    simp only [far]
    exact exists₂_congr fun position schema => and_left_comm
  · rw [(listed index).1, getElem?_describeAll] at there
    obtain ⟨position, schema, here, count, described⟩ := there
    have inside := (List.getElem?_eq_some_iff.mp here).1
    obtain rfl := eq_of_visibleBefore shown inside count
    exact ⟨schema, (near inside).trans here, described⟩
  · rw [(listed index).2, getElem?_describeAll] at there
    obtain ⟨position, schema, here, count, described⟩ := there
    obtain rfl := eq_of_visibleBefore shown (List.getElem?_eq_some_iff.mp here).1 count
    exact ⟨schema, (far position).trans here, described⟩

/-- A hidden schema among the positions that have to be there, and one before all others. -/
theorem describe?_positions_pair :
    let hidden : Schema := .ofLeaf .boolean (KeyMap.empty.insert "doc" (.bool false))
    let items : List Schema := [.ofLeaf .integer .empty, hidden, .ofLeaf .string .empty]
    let extraItems : List Schema := [hidden, .ofLeaf .float .empty]
    let schema? := (ArrayLayout.positional items extraItems).schema?
    (∃ position schema, position < items.length ∧ visibleBefore items position = 1 ∧
      schema? position = some schema ∧
      ofSchema? .extended schema = some (.object (ofType "string"))) ∧
    (∃ position schema, visibleBefore extraItems position = 0 ∧
      schema? (items.length + position) = some schema ∧
      ofSchema? .extended schema = some (.object (ofType "number"))) ∧
    (∃ schema, schema? 0 = some schema ∧
      ofSchema? .extended schema = some (.object (ofType "integer"))) := by
  intro hidden items extraItems
  have described : describe? .extended (.ofLayout (.positional items extraItems) .empty) =
      some (insertList "additionalItems" (describeAll .extended extraItems)
        (insertList "items" (describeAll .extended items) (ofType "array"))) := rfl
  obtain ⟨near, far, apart, -⟩ :=
    describe?_positions Vocabulary.extended_keepsOffKeywords described
  exact ⟨(near 1 _).mp rfl, (far 0 _).mp rfl, apart 0 _ (by decide) rfl⟩

end Draft3

end Schemata
