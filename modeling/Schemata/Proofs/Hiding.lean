import Schemata.Proofs.Description
import Schemata.Proofs.Throughout

/-!
Hidden nodes, and what is left of a schema without them. Main statement: a schema is described like
what is left of it, so that no hidden node leaves a trace in a description.
-/

namespace Schemata

namespace Schema

/-- Whether a node is hidden: its options say so, or it is a composite around a hidden node. -/
def isHidden : Schema → Bool
  | leaf _ options => options.isHidden
  | array options _ => options.isHidden
  | object options _ _ => options.isHidden
  | composite _ options inner _ => options.isHidden || isHidden inner

mutual

/-- The schema without the hidden nodes below it. -/
def visible : Schema → Schema
  | leaf kind options => leaf kind options
  | array options layout => array options (visibleLayout layout)
  | object options own extras => object options (visibleProperties own) (visibleExtras extras)
  | composite name options inner sanitizer => composite name options (visible inner) sanitizer

/-- Without its one schema for all items, an array has none for any. -/
def visibleLayout : ArrayLayout Schema → ArrayLayout Schema
  | .uniform item => if item.isHidden then .positional [] [] else .uniform (visible item)
  | .positional items extraItems => .positional (visibleItems items) (visibleItems extraItems)

def visibleItems : List Schema → List Schema
  | [] => []
  | schema :: rest =>
    if schema.isHidden then visibleItems rest else visible schema :: visibleItems rest

def visibleProperties : Properties Schema → Properties Schema
  | ⟨named, patterns⟩ => ⟨visibleNamed named, visiblePatterns patterns⟩

def visibleNamed : List (String × Schema) → List (String × Schema)
  | [] => []
  | (name, schema) :: rest =>
    if schema.isHidden then visibleNamed rest else (name, visible schema) :: visibleNamed rest

def visiblePatterns : List (Regex.Pattern × Schema) → List (Regex.Pattern × Schema)
  | [] => []
  | (pattern, schema) :: rest =>
    if schema.isHidden then visiblePatterns rest
    else (pattern, visible schema) :: visiblePatterns rest

def visibleExtras : List (Properties Schema) → List (Properties Schema)
  | [] => []
  | properties :: rest => visibleProperties properties :: visibleExtras rest

end

@[simp] theorem options_visible (schema : Schema) : schema.visible.options = schema.options := by
  cases schema with
  | leaf => rw [visible]
  | array | object | composite =>
    rw [visible]
    rfl

theorem isHidden_visible : ∀ schema : Schema, schema.visible.isHidden = schema.isHidden
  | leaf .. => by rw [visible]
  | array .. | object .. => by
    rw [visible]
    rfl
  | composite _ _ inner _ => by rw [visible, isHidden, isHidden, isHidden_visible inner]

/-- The node is not hidden, and neither is any node below it. -/
def Unhidden (schema : Schema) : Prop := schema.Throughout fun node => node.isHidden = false

mutual

/-- What is left of a schema that is not hidden has no hidden nodes. -/
theorem unhidden_visible : ∀ schema : Schema, schema.isHidden = false → schema.visible.Unhidden
  | leaf _ _, shown => by
    rw [visible]
    exact .node shown nofun
  | array _ layout, shown => by
    rw [visible]
    exact .node shown (unhidden_visibleLayout layout)
  | object _ own extras, shown => by
    rw [visible]
    refine .node shown fun child member => ?_
    obtain ⟨properties, level, inside⟩ := List.mem_flatMap.mp member
    rcases List.mem_cons.mp level with rfl | further
    · exact unhidden_visibleProperties own child inside
    · exact unhidden_visibleExtras extras properties further child inside
  | composite _ _ inner _, shown => by
    rw [visible]
    obtain ⟨_, within⟩ := Bool.or_eq_false_iff.mp shown
    refine .node ?_ fun child member => ?_
    · rw [isHidden, isHidden_visible]
      exact shown
    · obtain rfl := List.mem_singleton.mp member
      exact unhidden_visible inner within

theorem unhidden_visibleLayout : ∀ layout : ArrayLayout Schema,
    ∀ child ∈ (visibleLayout layout).schemas, child.Unhidden
  | .uniform item => by
    rw [visibleLayout]
    split
    · exact nofun
    · next shown =>
      intro child member
      obtain rfl := List.mem_singleton.mp member
      exact unhidden_visible item (Bool.not_eq_true _ ▸ shown)
  | .positional items extraItems => by
    rw [visibleLayout]
    exact List.forall_mem_append.mpr
      ⟨unhidden_visibleItems items, unhidden_visibleItems extraItems⟩

theorem unhidden_visibleItems : ∀ schemas : List Schema,
    ∀ child ∈ visibleItems schemas, child.Unhidden
  | [] => by simp [visibleItems]
  | schema :: rest => by
    rw [visibleItems]
    split
    · exact unhidden_visibleItems rest
    · next shown =>
      exact List.forall_mem_cons.mpr
        ⟨unhidden_visible schema (Bool.not_eq_true _ ▸ shown), unhidden_visibleItems rest⟩

theorem unhidden_visibleProperties : ∀ properties : Properties Schema,
    ∀ child ∈ (visibleProperties properties).schemas, child.Unhidden
  | ⟨named, patterns⟩ => by
    rw [visibleProperties]
    exact List.forall_mem_append.mpr
      ⟨List.forall_mem_map.mpr (unhidden_visibleNamed named),
        List.forall_mem_map.mpr (unhidden_visiblePatterns patterns)⟩

theorem unhidden_visibleNamed : ∀ named : List (String × Schema),
    ∀ property ∈ visibleNamed named, property.2.Unhidden
  | [] => by simp [visibleNamed]
  | (name, schema) :: rest => by
    rw [visibleNamed]
    split
    · exact unhidden_visibleNamed rest
    · next shown =>
      exact List.forall_mem_cons.mpr
        ⟨unhidden_visible schema (Bool.not_eq_true _ ▸ shown), unhidden_visibleNamed rest⟩

theorem unhidden_visiblePatterns : ∀ patterns : List (Regex.Pattern × Schema),
    ∀ property ∈ visiblePatterns patterns, property.2.Unhidden
  | [] => by simp [visiblePatterns]
  | (pattern, schema) :: rest => by
    rw [visiblePatterns]
    split
    · exact unhidden_visiblePatterns rest
    · next shown =>
      exact List.forall_mem_cons.mpr
        ⟨unhidden_visible schema (Bool.not_eq_true _ ▸ shown), unhidden_visiblePatterns rest⟩

theorem unhidden_visibleExtras : ∀ extras : List (Properties Schema),
    ∀ properties ∈ visibleExtras extras, ∀ child ∈ properties.schemas, child.Unhidden
  | [] => by simp [visibleExtras]
  | properties :: rest => by
    rw [visibleExtras]
    exact List.forall_mem_cons.mpr
      ⟨unhidden_visibleProperties properties, unhidden_visibleExtras rest⟩

end

end Schema

namespace Draft3

variable {known : Vocabulary}

theorem finish?_eq_none_iff {schema : Schema} {ofKind : Option Description} :
    finish? known schema ofKind = none ↔ schema.options.isHidden = true ∨ ofKind = none := by
  rw [finish?]
  split
  · next hidden => simp [hidden]
  · next shown => simp [shown]

/-- Hidden nodes are those that have no description. -/
theorem describe?_eq_none_iff : ∀ {schema : Schema},
    describe? known schema = none ↔ schema.isHidden = true := by
  intro schema
  cases schema with
  | composite name options inner sanitizer =>
    rw [describe?, finish?_eq_none_iff, @describe?_eq_none_iff inner, Schema.isHidden,
      Bool.or_eq_true]
    rfl
  | _ =>
    rw [describe?, finish?_eq_none_iff, Schema.isHidden]
    exact or_iff_left (Option.some_ne_none _)

theorem describe?_of_hidden {schema : Schema} (hidden : schema.isHidden = true) :
    describe? known schema = none := describe?_eq_none_iff.mpr hidden

mutual

theorem describe?_visible : ∀ schema : Schema,
    describe? known schema.visible = describe? known schema
  | .leaf .. => by rw [Schema.visible]
  | .array _ layout => by
    rw [Schema.visible, describe?, describe?, describeLayout_visible layout]
    rfl
  | .object _ own extras => by
    rw [Schema.visible, describe?, describe?, describeLevel_visible own,
      describeFirst?_visible extras]
    rfl
  | .composite _ _ inner _ => by
    rw [Schema.visible, describe?, describe?, describe?_visible inner]
    rfl

theorem describeLayout_visible : ∀ layout : ArrayLayout Schema,
    describeLayout known (Schema.visibleLayout layout) = describeLayout known layout
  | .uniform item => by
    rw [Schema.visibleLayout]
    split
    -- the description of no items by position is that of an array without any schema
    · next hidden =>
      rw [describeLayout, describeLayout, describe?_of_hidden hidden]
      rfl
    · rw [describeLayout, describeLayout, describe?_visible item]
  | .positional items extraItems => by
    rw [Schema.visibleLayout, describeLayout, describeLayout, describeAll_visible items,
      describeAll_visible extraItems]

theorem describeAll_visible : ∀ schemas : List Schema,
    describeAll known (Schema.visibleItems schemas) = describeAll known schemas
  | [] => by rw [Schema.visibleItems]
  | schema :: rest => by
    rw [Schema.visibleItems]
    split
    · next hidden => rw [describeAll, describe?_of_hidden hidden, describeAll_visible rest]
    · rw [describeAll, describeAll, describe?_visible schema, describeAll_visible rest]

theorem describeLevel_visible : ∀ properties : Properties Schema,
    describeLevel known (Schema.visibleProperties properties) = describeLevel known properties
  | ⟨named, patterns⟩ => by
    rw [Schema.visibleProperties, describeLevel, describeLevel, describeNamed_visible named,
      describePatterns_visible patterns]

theorem describeNamed_visible : ∀ named : List (String × Schema),
    describeNamed known (Schema.visibleNamed named) = describeNamed known named
  | [] => by rw [Schema.visibleNamed]
  | (name, schema) :: rest => by
    rw [Schema.visibleNamed]
    split
    · next hidden => rw [describeNamed, describe?_of_hidden hidden, describeNamed_visible rest]
    · rw [describeNamed, describeNamed, describe?_visible schema, describeNamed_visible rest,
        Schema.options_visible]

theorem describePatterns_visible : ∀ patterns : List (Regex.Pattern × Schema),
    describePatterns known (Schema.visiblePatterns patterns) = describePatterns known patterns
  | [] => by rw [Schema.visiblePatterns]
  | (pattern, schema) :: rest => by
    rw [Schema.visiblePatterns]
    split
    · next hidden =>
      rw [describePatterns, describe?_of_hidden hidden, describePatterns_visible rest]
    · rw [describePatterns, describePatterns, describe?_visible schema,
        describePatterns_visible rest]

theorem describeFirst?_visible : ∀ extras : List (Properties Schema),
    describeFirst? known (Schema.visibleExtras extras) = describeFirst? known extras
  | [] => by rw [Schema.visibleExtras]
  | properties :: rest => by
    rw [Schema.visibleExtras, describeFirst?, describeFirst?, describeLevel_visible properties]

end

/-- Hidden schemas are those without a description. Any other is described like what is left of it
when all hidden nodes below it are taken away, whatever they are, so that two schemas of which the
same is left have one description. -/
theorem hidden_leaves_no_trace (known : Vocabulary) (schema : Schema) :
    (ofSchema? known schema = none ↔ schema.isHidden = true) ∧
    (schema.isHidden = false →
      schema.visible.Unhidden ∧ ofSchema? known schema = ofSchema? known schema.visible) ∧
    ∀ other : Schema, other.visible = schema.visible →
      ofSchema? known other = ofSchema? known schema := by
  have same (schema : Schema) : ofSchema? known schema = ofSchema? known schema.visible := by
    rw [ofSchema?, ofSchema?, describe?_visible]
  refine ⟨?_, fun shown => ⟨schema.unhidden_visible shown, same schema⟩, fun other left => ?_⟩
  · rw [ofSchema?, Option.map_eq_none_iff, describe?_eq_none_iff]
  · rw [same other, left, ← same schema]

end Draft3

end Schemata
