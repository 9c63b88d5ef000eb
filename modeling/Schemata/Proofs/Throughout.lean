import Schemata.Proofs.Answer
import Schemata.Proofs.Resolution

namespace Schemata

def ArrayLayout.schemas : ArrayLayout σ → List σ
  | uniform item => [item]
  | positional items extraItems => items ++ extraItems

def Properties.schemas (properties : Properties σ) : List σ :=
  properties.named.map Prod.snd ++ properties.patterns.map Prod.snd

theorem ArrayLayout.mem_schemas {layout : ArrayLayout σ} {index : Nat} {schema : σ}
    (place : layout.schema? index = some schema) : schema ∈ layout.schemas := by
  cases layout with
  | uniform item => exact List.mem_singleton.mpr (Option.some.inj place).symm
  | positional items extraItems => exact List.mem_of_getElem? place

theorem Properties.mem_schemas_of_named {properties : Properties σ} {name : String} {schema : σ}
    (property : (name, schema) ∈ properties.named) : schema ∈ properties.schemas :=
  List.mem_append_left _ (List.mem_map.mpr ⟨_, property, rfl⟩)

theorem Properties.Matches.mem_schemas {properties : Properties σ} {key : String} {schema : σ}
    (matching : properties.Matches key schema) : schema ∈ properties.schemas := by
  cases matching with
  | name split =>
    have property : (key, schema) ∈ properties.named := by simp [split]
    exact mem_schemas_of_named property
  | pattern _ split => exact List.mem_append_right _ (by simp [split])

namespace Schema

/-- The schemas right below a node. -/
def children : Schema → List Schema
  | leaf .. => []
  | array _ layout => layout.schemas
  | object _ own extras => (own :: extras).flatMap Properties.schemas
  | composite _ _ inner _ => [inner]

/-- Every node satisfies the property. -/
inductive Throughout (property : Schema → Prop) : Schema → Prop where
  | node (here : property schema) (below : ∀ child ∈ schema.children, Throughout property child) :
      Throughout property schema

/-- The named properties have different names. -/
def NamesDistinct : Schema → Prop
  | object _ own extras =>
    ∀ properties ∈ own :: extras, (properties.named.map Prod.fst).Nodup
  | _ => True

/-- The node is no composite with a sanitizer. -/
def Plain : Schema → Prop
  | composite _ _ _ sanitizer => sanitizer = none
  | _ => True

theorem mem_children_of_resolves {options : Options} {own : Properties Schema}
    {extras : List (Properties Schema)} {key : String} {schema : Schema}
    (resolution : Resolves own extras key schema) :
    schema ∈ (object options own extras).children := by
  cases resolution with
  | own found => exact List.mem_flatMap.mpr ⟨own, List.mem_cons_self, found.mem_schemas⟩
  | extra _ first found =>
    exact List.mem_flatMap.mpr ⟨_, by simp [first], found.mem_schemas⟩

theorem mem_children_of_named {options : Options} {own : Properties Schema}
    {extras : List (Properties Schema)} {name : String} {schema : Schema}
    (property : (name, schema) ∈ own.named) : schema ∈ (object options own extras).children :=
  List.mem_flatMap.mpr ⟨own, List.mem_cons_self, Properties.mem_schemas_of_named property⟩

namespace Throughout

variable {schema : Schema} {property other : Schema → Prop}

theorem root (through : schema.Throughout property) : property schema := by
  cases through with
  | node here => exact here

theorem child (through : schema.Throughout property) {child : Schema}
    (member : child ∈ schema.children) : child.Throughout property := by
  cases through with
  | node _ below => exact below child member

theorem and (left : schema.Throughout property) (right : schema.Throughout other) :
    schema.Throughout fun node => property node ∧ other node := by
  induction left with
  | node here _ ih =>
    exact .node ⟨here, right.root⟩ fun child member => ih child member (right.child member)

theorem imp (through : schema.Throughout property)
    (implies : ∀ node, property node → other node) : schema.Throughout other := by
  induction through with
  | node here _ ih => exact .node (implies _ here) ih

end Throughout

end Schema

end Schemata
