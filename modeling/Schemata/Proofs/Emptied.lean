import Schemata.Emptying
import Schemata.Proofs.Places

namespace Schemata

namespace Schema

theorem mem_itemPlaces (step : Nat → Step) (start : Nat) {index : Nat} {items : List Schema}
    {child : Schema} (here : items[index]? = some child) {place : Place}
    (below : place ∈ child.slotPlaces) :
    step (start + index) :: place ∈ itemPlaces step start items := by
  induction items generalizing start index with
  | nil => nomatch here
  | cons first rest ih =>
    rw [itemPlaces]
    cases index with
    | zero =>
      cases here
      exact List.mem_append_left _ (List.mem_map_of_mem below)
    | succ index =>
      rw [Nat.add_comm index, ← Nat.add_assoc]
      exact List.mem_append_right _ (ih _ here)

theorem mem_namedPlaces {named : List (String × Schema)} {name : String} {child : Schema}
    (here : (name, child) ∈ named) {place : Place} (below : place ∈ child.slotPlaces) :
    .property name :: place ∈ namedPlaces named := by
  induction named with
  | nil => nomatch here
  | cons first rest ih =>
    obtain ⟨other, schema⟩ := first
    rw [namedPlaces]
    rcases List.mem_cons.mp here with same | later
    · cases same
      exact List.mem_append_left _ (List.mem_map_of_mem below)
    · exact List.mem_append_right _ (ih later)

theorem patternPlaces_eq (index : Nat) (patterns : List (Regex.Pattern × Schema)) :
    patternPlaces index patterns = itemPlaces .pattern index (patterns.map Prod.snd) := by
  induction patterns generalizing index with
  | nil => rfl
  | cons first rest ih => rw [patternPlaces, ih, List.map_cons, itemPlaces]

theorem mem_ownPlaces_of_named {own : Properties Schema} {name : String} {child : Schema}
    (here : (name, child) ∈ own.named) {place : Place} (below : place ∈ child.slotPlaces) :
    .property name :: place ∈ ownPlaces own := by
  rw [ownPlaces]
  exact List.mem_append_left _ (mem_namedPlaces here below)

theorem mem_ownPlaces_of_pattern {own : Properties Schema} {index : Nat}
    {pattern : Regex.Pattern} {child : Schema} (here : own.patterns[index]? = some (pattern, child))
    {place : Place} (below : place ∈ child.slotPlaces) :
    .pattern index :: place ∈ ownPlaces own := by
  have child? : (own.patterns.map Prod.snd)[index]? = some child := by simp [here]
  have numbered := mem_itemPlaces .pattern 0 child? below
  rw [Nat.zero_add] at numbered
  rw [ownPlaces, patternPlaces_eq]
  exact List.mem_append_right _ numbered

/-- No node is left out. -/
theorem mem_slotPlaces {schema node : Schema} {place : Place}
    (nodeAt : NodeAt schema place node) : place ∈ schema.slotPlaces := by
  induction nodeAt with
  | @root schema => cases schema <;> simp [slotPlaces]
  | item _ ih =>
    rw [slotPlaces, layoutPlaces]
    exact List.mem_cons_of_mem _ (List.mem_map_of_mem ih)
  | items here _ ih =>
    have numbered := mem_itemPlaces .items 0 here ih
    rw [Nat.zero_add] at numbered
    rw [slotPlaces, layoutPlaces]
    exact List.mem_cons_of_mem _ (List.mem_append_left _ numbered)
  | extraItems here _ ih =>
    have numbered := mem_itemPlaces .extraItems 0 here ih
    rw [Nat.zero_add] at numbered
    rw [slotPlaces, layoutPlaces]
    exact List.mem_cons_of_mem _ (List.mem_append_right _ numbered)
  | property here _ ih =>
    rw [slotPlaces]
    exact List.mem_cons_of_mem _ (List.mem_append_left _ (mem_ownPlaces_of_named here ih))
  | pattern here _ ih =>
    rw [slotPlaces]
    exact List.mem_cons_of_mem _ (List.mem_append_left _ (mem_ownPlaces_of_pattern here ih))
  | extra below _ ih =>
    -- `ih` speaks of the object one level further, whose own place is not meant here
    rw [slotPlaces] at ih ⊢
    rw [extraPlaces]
    have further := List.mem_of_ne_of_mem below ih
    exact List.mem_cons_of_mem _ (List.mem_append_right _ (List.mem_map_of_mem further))
  | inner _ ih =>
    rw [slotPlaces]
    exact List.mem_cons_of_mem _ (List.mem_map_of_mem ih)

end Schema

namespace Slots

variable (slots : Slots)

theorem get?_emptied (places : List Place) (place : Place) :
    (slots.writeAll (places.map (·, none))).get? place =
      if place ∈ places then none else slots.get? place := by
  induction places generalizing slots with
  | nil => rfl
  | cons first rest ih =>
    show ((slots.write (first, none)).writeAll (rest.map (·, none))).get? place = _
    rw [ih, get?_write]
    by_cases same : place = first <;> simp [same]

theorem held_emptied (places : List Place) :
    (slots.writeAll (places.map (·, none))).held =
      slots.held.filter fun entry => entry.1 ∉ places := by
  induction places generalizing slots with
  | nil => exact (List.filter_eq_self.mpr fun _ _ => rfl).symm
  | cons first rest ih =>
    show ((slots.write (first, none)).writeAll (rest.map (·, none))).held = _
    rw [ih]
    show (slots.held.filter fun entry => entry.1 != first).filter _ = _
    rw [List.filter_filter]
    refine List.filter_congr fun entry _ => ?_
    by_cases same : entry.1 = first <;> simp [same]

theorem get?_within (step : Step) (place : Place) :
    (slots.within step).get? (step :: place) = slots.get? place := by
  obtain ⟨held⟩ := slots
  show (held.map fun entry => (step :: entry.1, entry.2)).lookup (step :: place) = held.lookup place
  induction held with
  | nil => rfl
  | cons first rest ih =>
    rw [List.map_cons, List.lookup_cons, List.lookup_cons, ih, List.cons_beq_cons]
    simp

theorem get?_nil_within (step : Step) : (slots.within step).get? [] = none := by
  obtain ⟨held⟩ := slots
  show (held.map fun entry => (step :: entry.1, entry.2)).lookup [] = none
  induction held with
  | nil => rfl
  | cons first rest ih =>
    rw [List.map_cons, List.lookup_cons, ih]
    rfl

end Slots

namespace Validator

variable (validator : Validator)

/-- The slots of all nodes are empty, however deep they lie. -/
def HoldsNothing : Prop :=
  ∀ place node, NodeAt validator.schema place node → validator.slots.get? place = none

theorem holdsNothing_emptied : validator.emptied.HoldsNothing := by
  intro place node nodeAt
  have reached : place ∈ validator.schema.slotPlaces := Schema.mem_slotPlaces nodeAt
  rw [emptied, Slots.get?_emptied, if_pos reached]

/-- A new composite holds no more than what it is made of. -/
theorem HoldsNothing.within {validator : Validator} (nothing : validator.HoldsNothing)
    (name : String) (options : Options) (sanitizer : Option Sanitizer) :
    HoldsNothing
      ⟨.composite name options validator.schema sanitizer, validator.slots.within .inner⟩ := by
  intro place node nodeAt
  cases nodeAt with
  | root => exact Slots.get?_nil_within _ _
  | inner onward =>
    rw [Slots.get?_within]
    exact nothing _ node onward

/-- Where only nodes hold something, nothing is held afterwards. -/
theorem emptied_eq_reset
    (held : ∀ entry ∈ validator.slots.held, ∃ node, NodeAt validator.schema entry.1 node) :
    validator.emptied = validator.reset := by
  have nothing : (validator.slots.writeAll (validator.schema.slotPlaces.map (·, none))).held = [] := by
    rw [Slots.held_emptied, List.filter_eq_nil_iff]
    intro entry member
    obtain ⟨node, nodeAt⟩ := held entry member
    simpa using Schema.mem_slotPlaces nodeAt
  rw [emptied, reset]
  exact congrArg (Validator.mk validator.schema) (congrArg Slots.mk nothing)

end Validator

end Schemata
