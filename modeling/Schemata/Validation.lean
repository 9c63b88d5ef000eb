import Schemata.Schema
import Schemata.Visit

/-!
Validation: whether a schema accepts a document, and the sanitized document if it does. A node first
sanitizes the document, its parts before itself, and then checks its constraints on the sanitized
value; the first error found is the answer. The result depends on the schema and the document alone.
-/

namespace Schemata

/-- How a node looks at its part of a document. -/
abbrev Visitor := Document → Visit Document

/-- How the items of an array are matched. -/
def ArrayLayout.visit : ArrayLayout Visitor → List Document → Visit (List Document)
  | .uniform item, items => uniformly item 0 items
  | .positional required extra, items =>
    if items.length < required.length then
      .fail ⟨.sizeMismatch required.length items.length, []⟩
    else inTurn (required ++ extra) 0 items
where
  /-- All items, from the given index on, by the same visitor. -/
  uniformly (item : Visitor) (index : Nat) : List Document → Visit (List Document)
    | [] => pure []
    | first :: rest => do
      let value ← (item first).under (.index index)
      let values ← uniformly item (index + 1) rest
      return value :: values
  /-- Each item, from the given index on, by its own visitor; what is left over is kept as it is. -/
  inTurn : List Visitor → (index : Nat) → List Document → Visit (List Document)
    | visitor :: visitors, index, first :: rest => do
      let value ← (visitor first).under (.index index)
      let values ← inTurn visitors (index + 1) rest
      return value :: values
    | _, _, rest => pure rest

/-- What an object needs to know of the schema of a property. -/
structure PropertyRule where
  required : Bool
  default? : Option Document
  visit : Visitor

namespace PropertyRule

/-- The members of an object in the order of their keys. A key that resolves to nothing is kept as
it is, or rejected if the object is strict. -/
def visitMembers (strict : Bool) (resolve? : String → Option PropertyRule) :
    List (String × Document) → Visit (List (String × Document))
  | [] => pure []
  | (key, value) :: rest => do
    let value ← match resolve? key with
      | some rule => (rule.visit value).under (.key key)
      | none => if strict then .fail ⟨.unknownKey key, []⟩ else pure value
    let values ← visitMembers strict resolve? rest
    return (key, value) :: values

/-- Fills in the named properties that are absent: with their default, sanitized, if they have one;
otherwise they may not be required. -/
def visitAbsent (given : KeyMap Document) :
    List (String × PropertyRule) → KeyMap Document → Visit (KeyMap Document)
  | [], sanitized => pure sanitized
  | (name, rule) :: rest, sanitized =>
    if given.contains name then visitAbsent given rest sanitized
    else match rule.default? with
      | some default => do
        let value ← (rule.visit default).under (.key name)
        visitAbsent given rest (sanitized.insert name value)
      | none =>
        if rule.required then .fail ⟨.missingKey name, []⟩
        else visitAbsent given rest sanitized

/-- How the members of an object are matched. -/
def visitObject (strict : Bool) (own : Properties PropertyRule)
    (extras : List (Properties PropertyRule)) (given : KeyMap Document) :
    Visit (KeyMap Document) := do
  let members ← visitMembers strict (resolve? own extras) given.entries
  visitAbsent given own.named ⟨members⟩

end PropertyRule

namespace Schema

/-- The visit of a node, given how it sanitizes: its constraints are checked on the sanitized value,
and the slot is filled if all went well. -/
def complete (known : Vocabulary) (schema : Schema) (sanitize : Visitor) : Visitor := fun doc =>
  .publish do
    let value ← sanitize doc
    Visit.ofExcept (schema.check known value)
    return value

/-- The rule of a property, given how its schema sanitizes. -/
def rule (known : Vocabulary) (schema : Schema) (sanitize : Visitor) (steps : Place) :
    PropertyRule where
  required := schema.options.required
  default? := schema.options.default?
  visit := fun doc => steps.foldr Visit.within (schema.complete known sanitize doc)

mutual

/-- Checks the shape of a document and builds the sanitized value, leaving the constraints of the
node itself aside. -/
def sanitize (known : Vocabulary) : Schema → Visitor
  | leaf kind options => fun doc => .ofExcept (kind.sanitize known options doc)
  | array _ layout => fun doc =>
    match doc with
    | .array items => do return .array (← (layoutVisitors known layout).visit items)
    | other => .fail (.typeMismatch "array" other)
  | object options own extras => fun doc =>
    match doc with
    | .object members => do
      return .object (← PropertyRule.visitObject options.strict (ownRules known [] own)
        (extraRules known [.extra] extras) members)
    | other => .fail (.typeMismatch "object" other)
  | composite _ _ inner sanitizer => fun doc => do
    let value ← (inner.complete known (sanitize known inner) doc).within .inner
    match sanitizer with
    | some sanitizer => .ofExcept (sanitizer value)
    | none => return value

def layoutVisitors (known : Vocabulary) : ArrayLayout Schema → ArrayLayout Visitor
  | .uniform item =>
    .uniform fun doc => (item.complete known (sanitize known item) doc).within .item
  | .positional items extraItems =>
    .positional (itemVisitors known .items 0 items) (itemVisitors known .extraItems 0 extraItems)

/-- The visitors of a list of schemas, whose places are numbered from `index` on. -/
def itemVisitors (known : Vocabulary) (step : Nat → Step) (index : Nat) :
    List Schema → List Visitor
  | [] => []
  | schema :: rest =>
    (fun doc => (schema.complete known (sanitize known schema) doc).within (step index)) ::
      itemVisitors known step (index + 1) rest

/-- The rules of properties, which are found by way of the given steps. -/
def ownRules (known : Vocabulary) (steps : Place) : Properties Schema → Properties PropertyRule
  | ⟨named, patterns⟩ => ⟨namedRules known steps named, patternRules known steps 0 patterns⟩

def namedRules (known : Vocabulary) (steps : Place) :
    List (String × Schema) → List (String × PropertyRule)
  | [] => []
  | (name, schema) :: rest =>
    (name, schema.rule known (sanitize known schema) (steps ++ [.property name])) ::
      namedRules known steps rest

/-- The rules of pattern properties, numbered from `index` on. -/
def patternRules (known : Vocabulary) (steps : Place) (index : Nat) :
    List (Regex.Pattern × Schema) → List (Regex.Pattern × PropertyRule)
  | [] => []
  | (pattern, schema) :: rest =>
    (pattern, schema.rule known (sanitize known schema) (steps ++ [.pattern index])) ::
      patternRules known steps (index + 1) rest

/-- The rules of extra properties, each one step further. -/
def extraRules (known : Vocabulary) (steps : Place) :
    List (Properties Schema) → List (Properties PropertyRule)
  | [] => []
  | properties :: rest =>
    ownRules known steps properties :: extraRules known (.extra :: steps) rest

end

/-- Validates a document: its shape, its parts and then the constraints of the node. -/
def validate (known : Vocabulary) (schema : Schema) (doc : Document) : Visit Document :=
  schema.complete known (schema.sanitize known) doc

/-- The sanitized document, or why there is none. -/
def validated (known : Vocabulary) (schema : Schema) (doc : Document) :
    Except ValidationError Document :=
  (schema.validate known doc).outcome

end Schema

end Schemata
