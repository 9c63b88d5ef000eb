import Mathlib.Data.List.Basic
import Schemata.Validation

/-!
Places: which steps lead from a node to the schema that an item or a key stands for. Main statement:
the rules by which an object visits its members are those of the schemas at these places.
-/

namespace Schemata

/-- The step from an array to the schema of an index. -/
def ArrayLayout.stepTo : ArrayLayout σ → Nat → Step
  | uniform _, _ => .item
  | positional items _, index =>
    if index < items.length then .items index else .extraItems (index - items.length)

/-- What stands with the first pattern that matches the key, and its number from `index` on. -/
def Properties.numbered? (key : String) (index : Nat) :
    List (Regex.Pattern × σ) → Option (Nat × σ)
  | [] => none
  | (pattern, found) :: rest =>
    if pattern.isMatch key then some (index, found) else numbered? key (index + 1) rest

/-- What a key stands for among properties, and the step that leads there. -/
def Properties.locate? (properties : Properties σ) (key : String) : Option (Step × σ) :=
  ((properties.named? key).map fun found => (.property key, found)).or
    ((numbered? key 0 properties.patterns).map fun found => (.pattern found.1, found.2))

/-- What a key of an object stands for, and the steps that lead there. -/
def locate? (own : Properties σ) (extras : List (Properties σ)) (key : String) :
    Option (Place × σ) :=
  ((own.locate? key).map fun found => ([found.1], found.2)).or
    ((extras.head?.bind (·.locate? key)).map fun found => ([.extra, found.1], found.2))

/-- The node at a place of a schema. -/
inductive NodeAt : Schema → Place → Schema → Prop where
  | root : NodeAt schema [] schema
  | item (onward : NodeAt item place node) :
      NodeAt (.array options (.uniform item)) (.item :: place) node
  | items (here : items[index]? = some child) (onward : NodeAt child place node) :
      NodeAt (.array options (.positional items extraItems)) (.items index :: place) node
  | extraItems (here : extraItems[index]? = some child) (onward : NodeAt child place node) :
      NodeAt (.array options (.positional items extraItems)) (.extraItems index :: place) node
  | property (here : (name, child) ∈ own.named) (onward : NodeAt child place node) :
      NodeAt (.object options own extras) (.property name :: place) node
  | pattern (here : own.patterns[index]? = some (pattern, child))
      (onward : NodeAt child place node) :
      NodeAt (.object options own extras) (.pattern index :: place) node
  /-- Extra properties are no node themselves, but hold some. -/
  | extra (below : place ≠ []) (onward : NodeAt (.object options properties deeper) place node) :
      NodeAt (.object options own (properties :: deeper)) (.extra :: place) node
  | inner {inner : Schema} (onward : NodeAt inner place node) :
      NodeAt (.composite name options inner sanitizer) (.inner :: place) node

theorem getLast?_cons_ne_extra {step : Step} {place : Place} (other : step ≠ .extra)
    (below : place.getLast? ≠ some .extra) : (step :: place).getLast? ≠ some .extra := by
  cases place with
  | nil => simpa using other
  | cons next place => simpa using below

theorem NodeAt.getLast?_ne_extra {schema node : Schema} {place : Place}
    (nodeAt : NodeAt schema place node) : place.getLast? ≠ some .extra := by
  induction nodeAt with
  | root => simp
  | extra below _ ih =>
    obtain ⟨step, place, rfl⟩ := List.exists_cons_of_ne_nil below
    simpa using ih
  | _ => exact getLast?_cons_ne_extra nofun ‹_›

theorem Properties.numbered?_map_snd (key : String) (index : Nat)
    (patterns : List (Regex.Pattern × σ)) :
    (numbered? key index patterns).map Prod.snd =
      (patterns.find? fun entry => entry.1.isMatch key).map Prod.snd := by
  induction patterns generalizing index with
  | nil => rfl
  | cons entry rest ih =>
    obtain ⟨pattern, found⟩ := entry
    by_cases matched : pattern.isMatch key = true
    · simp [numbered?, matched]
    · simpa [numbered?, matched] using ih (index + 1)

theorem Properties.locate?_map_snd (properties : Properties σ) (key : String) :
    (properties.locate? key).map Prod.snd = properties.resolve? key := by
  have byPattern := numbered?_map_snd key 0 properties.patterns
  have byName : Option.map (Prod.snd ∘ fun found => (Step.property key, found))
      (properties.named? key) = properties.named? key := Option.map_id'
  simp only [locate?, resolve?, matched?, Option.map_or, Option.map_map, byName, ← byPattern]
  rfl

/-- A place is found exactly where the key stands for something, and is the place of that. -/
theorem locate?_map_snd (own : Properties σ) (extras : List (Properties σ)) (key : String) :
    (locate? own extras key).map Prod.snd = resolve? own extras key := by
  have further : (extras.head?.bind (·.locate? key)).map Prod.snd =
      extras.head?.bind (·.resolve? key) := by
    simp only [← Properties.locate?_map_snd, Option.map_bind]
    rfl
  rw [locate?, resolve?, Option.map_or, Option.map_map, Option.map_map, ← further,
    ← Properties.locate?_map_snd]
  rfl

theorem Properties.numbered?_eq_some {key : String} {patterns : List (Regex.Pattern × σ)}
    {start index : Nat} {found : σ} (here : numbered? key start patterns = some (index, found)) :
    ∃ offset pattern, index = start + offset ∧ patterns[offset]? = some (pattern, found) := by
  induction patterns generalizing start with
  | nil => nomatch here
  | cons entry rest ih =>
    obtain ⟨pattern, other⟩ := entry
    rw [numbered?] at here
    split at here
    · cases here
      exact ⟨0, pattern, rfl, rfl⟩
    · obtain ⟨offset, pattern, same, further⟩ := ih here
      exact ⟨offset + 1, pattern, by omega, further⟩

theorem Properties.nodeAt_of_locate? {own : Properties Schema} {key : String} {step : Step}
    {child : Schema} (here : own.locate? key = some (step, child)) (options : Options)
    (extras : List (Properties Schema)) : NodeAt (.object options own extras) [step] child := by
  rw [locate?, Option.or_eq_some_iff] at here
  obtain named | ⟨-, matched⟩ := here
  · obtain ⟨found, look, same⟩ := Option.map_eq_some_iff.mp named
    cases same
    exact .property (KeyMap.mem_of_find? look) .root
  · obtain ⟨⟨index, found⟩, look, same⟩ := Option.map_eq_some_iff.mp matched
    cases same
    obtain ⟨offset, pattern, rfl, there⟩ := numbered?_eq_some look
    rw [Nat.zero_add]
    exact .pattern there .root

theorem nodeAt_of_locate? {own : Properties Schema} {extras : List (Properties Schema)}
    {key : String} {steps : Place} {child : Schema}
    (here : locate? own extras key = some (steps, child)) (options : Options) :
    NodeAt (.object options own extras) steps child := by
  rw [locate?, Option.or_eq_some_iff] at here
  obtain near | ⟨-, far⟩ := here
  · obtain ⟨⟨step, found⟩, look, same⟩ := Option.map_eq_some_iff.mp near
    cases same
    exact own.nodeAt_of_locate? look options extras
  · obtain ⟨⟨step, found⟩, look, same⟩ := Option.map_eq_some_iff.mp far
    cases same
    obtain ⟨properties, first, look⟩ := Option.bind_eq_some_iff.mp look
    obtain ⟨deeper, rfl⟩ := List.head?_eq_some_iff.mp first
    exact .extra (List.cons_ne_nil _ _) (properties.nodeAt_of_locate? look options deeper)

/-- A key takes one step, or two of which the first goes to the extra properties. -/
theorem steps_of_locate? {own : Properties σ} {extras : List (Properties σ)} {key : String}
    {steps : Place} {found : σ} (here : locate? own extras key = some (steps, found)) :
    ∃ step, steps = [step] ∨ steps = [.extra, step] := by
  rw [locate?, Option.or_eq_some_iff] at here
  obtain near | ⟨-, far⟩ := here
  · obtain ⟨found, -, same⟩ := Option.map_eq_some_iff.mp near
    exact ⟨found.1, .inl (Prod.mk.inj same).1.symm⟩
  · obtain ⟨found, -, same⟩ := Option.map_eq_some_iff.mp far
    exact ⟨found.1, .inr (Prod.mk.inj same).1.symm⟩

theorem Properties.sizeOf_lt_of_named {own : Properties Schema} {name : String} {child : Schema}
    (here : (name, child) ∈ own.named) : sizeOf child < sizeOf own := by
  have smaller := List.sizeOf_lt_of_mem here
  cases own
  simp only [Properties.mk.sizeOf_spec, Prod.mk.sizeOf_spec] at *
  omega

theorem Properties.sizeOf_lt_of_pattern {own : Properties Schema} {index : Nat}
    {pattern : Regex.Pattern} {child : Schema} (here : own.patterns[index]? = some (pattern, child)) :
    sizeOf child < sizeOf own := by
  have smaller := List.sizeOf_lt_of_mem (List.mem_of_getElem? here)
  cases own
  simp only [Properties.mk.sizeOf_spec, Prod.mk.sizeOf_spec] at *
  omega

/-- Nodes get smaller on the way down. -/
theorem NodeAt.sizeOf_add_length_le {schema node : Schema} {place : Place}
    (nodeAt : NodeAt schema place node) : sizeOf node + place.length ≤ sizeOf schema := by
  induction nodeAt with
  | root => exact Nat.le_refl _
  | items here _ ih | extraItems here _ ih =>
    have smaller := List.sizeOf_lt_of_mem (List.mem_of_getElem? here)
    simp only [List.length_cons, Schema.array.sizeOf_spec, ArrayLayout.positional.sizeOf_spec]
    omega
  | property here _ ih =>
    have smaller := Properties.sizeOf_lt_of_named here
    simp only [List.length_cons, Schema.object.sizeOf_spec]
    omega
  | pattern here _ ih =>
    have smaller := Properties.sizeOf_lt_of_pattern here
    simp only [List.length_cons, Schema.object.sizeOf_spec]
    omega
  | item _ ih | extra _ _ ih | inner _ ih =>
    simp only [List.length_cons, Schema.array.sizeOf_spec, ArrayLayout.uniform.sizeOf_spec,
      Schema.object.sizeOf_spec, List.cons.sizeOf_spec, Schema.composite.sizeOf_spec] at *
    omega

theorem NodeAt.trans {schema node deeper : Schema} {place further : Place}
    (nodeAt : NodeAt schema place node) (onward : NodeAt node further deeper) :
    NodeAt schema (place ++ further) deeper := by
  induction nodeAt with
  | root => exact onward
  | item _ ih => exact .item (ih onward)
  | items here _ ih => exact .items here (ih onward)
  | extraItems here _ ih => exact .extraItems here (ih onward)
  | property here _ ih => exact .property here (ih onward)
  | pattern here _ ih => exact .pattern here (ih onward)
  | extra below _ ih => exact .extra (List.append_ne_nil_of_left_ne_nil below _) (ih onward)
  | inner _ ih => exact .inner (ih onward)

namespace Schema

variable {known : Vocabulary}

/-- The rule of the schema at a place. -/
def ruleAt (known : Vocabulary) (located : Place × Schema) : PropertyRule :=
  located.2.rule known (located.2.sanitize known) located.1

theorem find?_namedRules (known : Vocabulary) (steps : Place) (named : List (String × Schema))
    (key : String) :
    KeyMap.find? key (namedRules known steps named) =
      (KeyMap.find? key named).map fun schema => ruleAt known (steps ++ [.property key], schema) := by
  induction named with
  | nil => rfl
  | cons property rest ih =>
    obtain ⟨name, schema⟩ := property
    by_cases same : key = name
    · simp [namedRules, KeyMap.find?, same, ruleAt]
    · simpa [namedRules, KeyMap.find?, same] using ih

theorem find?_patternRules (known : Vocabulary) (steps : Place) (index : Nat)
    (patterns : List (Regex.Pattern × Schema)) (key : String) :
    ((patternRules known steps index patterns).find? fun entry => entry.1.isMatch key).map
        Prod.snd =
      (Properties.numbered? key index patterns).map fun found =>
        ruleAt known (steps ++ [.pattern found.1], found.2) := by
  induction patterns generalizing index with
  | nil => rfl
  | cons property rest ih =>
    obtain ⟨pattern, schema⟩ := property
    by_cases matched : pattern.isMatch key = true
    · simp [patternRules, Properties.numbered?, matched, ruleAt]
    · simpa [patternRules, Properties.numbered?, matched] using ih (index + 1)

theorem resolve?_ownRules (known : Vocabulary) (steps : Place) (own : Properties Schema)
    (key : String) :
    (ownRules known steps own).resolve? key =
      (own.locate? key).map fun found => ruleAt known (steps ++ [found.1], found.2) := by
  obtain ⟨named, patterns⟩ := own
  simp only [ownRules, Properties.resolve?, Properties.named?, Properties.matched?,
    Properties.locate?, find?_namedRules, find?_patternRules, Option.map_or, Option.map_map]
  rfl

/-- The rule of a key is that of the schema it stands for, at its place. -/
theorem resolve?_rules (known : Vocabulary) (own : Properties Schema)
    (extras : List (Properties Schema)) (key : String) :
    resolve? (ownRules known [] own) (extraRules known [.extra] extras) key =
      (locate? own extras key).map (ruleAt known) := by
  rw [resolve?, locate?, Option.map_or, Option.map_map, Option.map_map, resolve?_ownRules]
  cases extras with
  | nil => rfl
  | cons first deeper =>
    rw [extraRules, List.head?_cons, Option.bind_some, resolve?_ownRules]
    rfl

end Schema

end Schemata
