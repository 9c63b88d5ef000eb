import Schemata.Proofs.Places
import Schemata.Proofs.Rounds

namespace Schemata

/-- The schema that the item of an index has to match. -/
def ArrayLayout.schema? : ArrayLayout σ → Nat → Option σ
  | uniform item, _ => some item
  | positional items extraItems, index => (items ++ extraItems)[index]?

/-- How many items have to be there. -/
def ArrayLayout.required : ArrayLayout σ → Nat
  | uniform _ => 0
  | positional items _ => items.length

theorem ArrayLayout.nodeAt_of_schema? {layout : ArrayLayout Schema} {index : Nat} {child : Schema}
    (here : layout.schema? index = some child) (options : Options) :
    NodeAt (.array options layout) [layout.stepTo index] child := by
  cases layout with
  | uniform item =>
    cases here
    exact .item .root
  | positional items extraItems =>
    simp only [schema?, List.getElem?_append] at here
    rw [stepTo]
    split at here
    · rw [if_pos ‹_›]
      exact .items here .root
    · rw [if_neg ‹_›]
      exact .extraItems here .root

namespace Schema

/-- How the schema at a place visits. -/
def visitorAt (known : Vocabulary) (located : Place × Schema) : Visitor := fun doc =>
  located.1.foldr Visit.within (located.2.validate known doc)

/-- How an array visits an item; one that no schema stands for is left as it is. -/
def itemVisit (known : Vocabulary) (layout : ArrayLayout Schema) (element : Document × Nat) :
    Visit Document :=
  match layout.schema? element.2 with
  | some schema =>
    (visitorAt known ([layout.stepTo element.2], schema) element.1).under (.index element.2)
  | none => pure element.1

/-- How an object visits a member, given what its key stands for. -/
def memberVisit (known : Vocabulary) (strict : Bool) (find? : String → Option (Place × Schema))
    (member : String × Document) : Visit (String × Document) :=
  match find? member.1 with
  | some located => do
    let value ← (visitorAt known located member.2).under (.key member.1)
    return (member.1, value)
  | none => if strict then .fail ⟨.unknownKey member.1, []⟩ else pure member

/-- How an object visits a named property that may be absent. -/
def absentVisit (known : Vocabulary) (given : KeyMap Document) (property : String × Schema) :
    Visit (Option (String × Document)) :=
  if given.contains property.1 then pure none
  else match property.2.options.default? with
    | some default => do
      let value ← (visitorAt known ([.property property.1], property.2) default).under
        (.key property.1)
      return some (property.1, value)
    | none =>
      if property.2.options.required then .fail ⟨.missingKey property.1, []⟩ else pure none

variable {known : Vocabulary}

theorem uniformly_eq_each (item : Schema) (index : Nat) (items : List Document) :
    ArrayLayout.visit.uniformly (visitorAt known ([.item], item)) index items =
      Visit.each (itemVisit known (.uniform item)) (items.zipIdx index) := by
  induction items generalizing index with
  | nil => rfl
  | cons first rest ih =>
    rw [ArrayLayout.visit.uniformly, List.zipIdx_cons, Visit.each, ih]
    rfl

theorem getElem?_itemVisitors (known : Vocabulary) (step : Nat → Step) (start : Nat)
    (schemas : List Schema) (index : Nat) :
    (itemVisitors known step start schemas)[index]? =
      schemas[index]?.map fun schema => visitorAt known ([step (start + index)], schema) := by
  induction schemas generalizing start index with
  | nil => rfl
  | cons schema rest ih =>
    cases index with
    | zero => rfl
    | succ index =>
      have further := ih (start + 1) index
      rw [Nat.add_right_comm] at further
      simpa [itemVisitors, Nat.add_assoc] using further

theorem length_itemVisitors (known : Vocabulary) (step : Nat → Step) (start : Nat)
    (schemas : List Schema) : (itemVisitors known step start schemas).length = schemas.length := by
  induction schemas generalizing start with
  | nil => rfl
  | cons schema rest ih => simp [itemVisitors, ih]

/-- The visitors of a positional layout stand in the order of its schemas. -/
theorem getElem?_visitors (known : Vocabulary) (items extraItems : List Schema) (index : Nat) :
    (itemVisitors known .items 0 items ++ itemVisitors known .extraItems 0 extraItems)[index]? =
      ((ArrayLayout.positional items extraItems).schema? index).map fun schema =>
        visitorAt known ([(ArrayLayout.positional items extraItems).stepTo index], schema) := by
  simp only [ArrayLayout.schema?, ArrayLayout.stepTo, List.getElem?_append, length_itemVisitors,
    getElem?_itemVisitors, Nat.zero_add]
  split <;> rfl

theorem inTurn_eq_each {layout : ArrayLayout Schema} {visitors : List Visitor}
    (stand : ∀ index, visitors[index]? = (layout.schema? index).map fun schema =>
      visitorAt known ([layout.stepTo index], schema)) (index : Nat) (items : List Document) :
    ArrayLayout.visit.inTurn (visitors.drop index) index items =
      Visit.each (itemVisit known layout) (items.zipIdx index) := by
  induction items generalizing index with
  | nil => cases visitors.drop index <;> rfl
  | cons first rest ih =>
    rw [List.zipIdx_cons, Visit.each, ← ih (index + 1)]
    cases place : layout.schema? index with
    | some schema =>
      have found : visitors[index]? = some (visitorAt known ([layout.stepTo index], schema)) := by
        rw [stand, place, Option.map_some]
      obtain ⟨inside, here⟩ := List.getElem?_eq_some_iff.mp found
      rw [List.drop_eq_getElem_cons inside, here]
      simp only [ArrayLayout.visit.inTurn, itemVisit, place]
    | none =>
      have missing : visitors[index]? = none := by rw [stand, place, Option.map_none]
      have past := List.getElem?_eq_none_iff.mp missing
      rw [List.drop_eq_nil_of_le past, List.drop_eq_nil_of_le (Nat.le_succ_of_le past)]
      simp only [ArrayLayout.visit.inTurn, itemVisit, place, pure_bind]

/-- An array looks at its items in one round, if there are enough of them. -/
theorem visit_layoutVisitors (layout : ArrayLayout Schema) (items : List Document) :
    (layoutVisitors known layout).visit items =
      if items.length < layout.required then
        .fail ⟨.sizeMismatch layout.required items.length, []⟩
      else Visit.each (itemVisit known layout) items.zipIdx := by
  cases layout with
  | uniform item => exact uniformly_eq_each item 0 items
  | positional required extraItems =>
    have inTurn := inTurn_eq_each (getElem?_visitors known required extraItems) 0 items
    rw [List.drop_zero] at inTurn
    rw [layoutVisitors, ArrayLayout.visit, length_itemVisitors, inTurn]
    rfl

theorem visitMembers_eq_each (strict : Bool) (find? : String → Option (Place × Schema))
    (members : List (String × Document)) :
    PropertyRule.visitMembers strict (fun key => (find? key).map (ruleAt known)) members =
      Visit.each (memberVisit known strict find?) members := by
  induction members with
  | nil => rfl
  | cons member rest ih =>
    obtain ⟨key, value⟩ := member
    rw [PropertyRule.visitMembers, Visit.each, ih, memberVisit]
    cases find? key with
    | some located => simp only [Option.map_some, bind_assoc, pure_bind]; rfl
    | none =>
      cases strict with
      | true => rfl
      | false => rfl

theorem visitAbsent_eq_each (given : KeyMap Document) (named : List (String × Schema))
    (sanitized : KeyMap Document) :
    PropertyRule.visitAbsent given (namedRules known [] named) sanitized = do
      let filled ← Visit.each (absentVisit known given) named
      return KeyMap.overlay sanitized ⟨filled.filterMap id⟩ := by
  induction named generalizing sanitized with
  | nil => rfl
  | cons property rest ih =>
    obtain ⟨name, schema⟩ := property
    rw [namedRules, PropertyRule.visitAbsent, Visit.each, absentVisit]
    by_cases present : given.contains name = true
    · simp only [present, ↓reduceIte, ih, pure_bind, bind_assoc]
      rfl
    · simp only [present, Bool.false_eq_true, ↓reduceIte, rule]
      cases schema.options.default? with
      | some default => simp only [ih, bind_assoc, pure_bind]; rfl
      | none =>
        by_cases needed : schema.options.required = true
        · simp only [needed, ↓reduceIte]
          rfl
        · simp only [needed, Bool.false_eq_true, ↓reduceIte, ih, pure_bind, bind_assoc]
          rfl

/-- An object looks at its members in one round and then at its named properties in another. -/
theorem visitObject_rules (strict : Bool) (own : Properties Schema)
    (extras : List (Properties Schema)) (members : KeyMap Document) :
    PropertyRule.visitObject strict (ownRules known [] own) (extraRules known [.extra] extras)
        members = do
      let kept ← Visit.each (memberVisit known strict (locate? own extras)) members.entries
      let filled ← Visit.each (absentVisit known members) own.named
      return KeyMap.overlay ⟨kept⟩ ⟨filled.filterMap id⟩ := by
  have rules : resolve? (ownRules known [] own) (extraRules known [.extra] extras) =
      fun key => (locate? own extras key).map (ruleAt known) :=
    funext (resolve?_rules known own extras)
  have named : (ownRules known [] own).named = namedRules known [] own.named := by
    obtain ⟨named, patterns⟩ := own
    simp only [ownRules]
  simp only [PropertyRule.visitObject, rules, named, visitMembers_eq_each, visitAbsent_eq_each]

end Schema

end Schemata
