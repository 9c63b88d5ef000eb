import Schemata.Schema
import Schemata.Slots

namespace Schemata

/-- A node with the nodes below it: the label of each, the steps that lead there, and its own
outline. -/
inductive Outline where
  | node (schema : Schema) (children : List (String × Place × Outline))

namespace Outline

def schema : Outline → Schema
  | node schema _ => schema

def children : Outline → List (String × Place × Outline)
  | node _ children => children

mutual

/-- All nodes, each before those below it, by the labels on the way and by place. `path` and `place`
lead to the first. -/
def nodesFrom (path : String) (place : Place) : Outline → List (String × Place)
  | node _ children => (path, place) :: nodesBelow path place children

def nodesBelow (path : String) (place : Place) :
    List (String × Place × Outline) → List (String × Place)
  | [] => []
  | (label, steps, outline) :: rest =>
    nodesFrom s!"{path}/{label}" (place ++ steps) outline ++ nodesBelow path place rest

end

/-- All nodes, the root first. -/
def nodes (outline : Outline) : List (String × Place) := nodesFrom "" [] outline

end Outline

namespace Schema

mutual

def outline : Schema → Outline
  | leaf kind options => .node (leaf kind options) []
  | array options layout => .node (array options layout) (layoutOutlines layout)
  | object options own extras =>
    .node (object options own extras)
      (ownOutlines "" [] own ++ extraOutlines "extra/" [.extra] extras)
  | composite name options inner sanitizer =>
    .node (composite name options inner sanitizer) [("inner", [.inner], outline inner)]

def layoutOutlines : ArrayLayout Schema → List (String × Place × Outline)
  | .uniform item => [("item", [.item], outline item)]
  | .positional items extraItems =>
    itemOutlines "items" .items 0 items ++ itemOutlines "extra_items" .extraItems 0 extraItems

/-- Nodes numbered from `index` on. -/
def itemOutlines (label : String) (step : Nat → Step) (index : Nat) :
    List Schema → List (String × Place × Outline)
  | [] => []
  | schema :: rest =>
    (s!"{label}:{index}", [step index], outline schema) :: itemOutlines label step (index + 1) rest

/-- The nodes of properties; `label` and `steps` lead to the properties. -/
def ownOutlines (label : String) (steps : Place) :
    Properties Schema → List (String × Place × Outline)
  | ⟨named, patterns⟩ => namedOutlines label steps named ++ patternOutlines label steps 0 patterns

def namedOutlines (label : String) (steps : Place) :
    List (String × Schema) → List (String × Place × Outline)
  | [] => []
  | (name, schema) :: rest =>
    (s!"{label}property:{name}", steps ++ [.property name], outline schema) ::
      namedOutlines label steps rest

/-- The nodes of pattern properties, numbered from `index` on. -/
def patternOutlines (label : String) (steps : Place) (index : Nat) :
    List (Regex.Pattern × Schema) → List (String × Place × Outline)
  | [] => []
  | (pattern, schema) :: rest =>
    (s!"{label}pattern:{pattern.source}", steps ++ [.pattern index], outline schema) ::
      patternOutlines label steps (index + 1) rest

/-- The nodes of extra properties, each one step further. -/
def extraOutlines (label : String) (steps : Place) :
    List (Properties Schema) → List (String × Place × Outline)
  | [] => []
  | properties :: rest =>
    ownOutlines label steps properties ++
      extraOutlines s!"extra/{label}" (.extra :: steps) rest

end

end Schema

end Schemata
