import Schemata.Documentation
import Schemata.Leaf

/-!
Schemas: trees that say which documents are accepted. A node holds its options with the defaults of
its kind filled in.
-/

namespace Schemata

/-- Gives the value of a composite from the sanitized value of its inner schema. -/
abbrev Sanitizer := Document → Except ValidationError Document

/-- What the items of an array have to match. -/
inductive ArrayLayout (σ : Type) where
  /-- All items match one schema. -/
  | uniform (item : σ)
  /-- The first items match a schema each and have to be there; the next match a schema each if they
  are there; all later ones may be anything. -/
  | positional (items extraItems : List σ)

/-- What the keys of an object are matched against: names first, then patterns in their order. -/
structure Properties (σ : Type) where
  named : List (String × σ) := []
  patterns : List (Regex.Pattern × σ) := []

inductive Schema where
  | leaf (kind : LeafKind) (options : Options)
  | array (options : Options) (layout : ArrayLayout Schema)
  /-- `extras` describe further keys: the first of them those that `own` does not match. What
  follows the first is kept but matches nothing. -/
  | object (options : Options) (own : Properties Schema) (extras : List (Properties Schema))
  | composite (name : String) (options : Options) (inner : Schema) (sanitizer : Option Sanitizer)

namespace Properties

variable {σ τ : Type}

def named? (properties : Properties σ) (key : String) : Option σ :=
  KeyMap.find? key properties.named

/-- What stands with the first pattern that matches the key. -/
def matched? (properties : Properties σ) (key : String) : Option σ :=
  (properties.patterns.find? fun entry => entry.1.isMatch key).map Prod.snd

/-- What the key resolves to: a name goes before all patterns. -/
def resolve? (properties : Properties σ) (key : String) : Option σ :=
  (properties.named? key).or (properties.matched? key)

end Properties

/-- What a key of an object resolves to, in its own properties or else in the first of the extra
ones. -/
def resolve? (own : Properties σ) (extras : List (Properties σ)) (key : String) : Option σ :=
  (own.resolve? key).or (extras.head?.bind (·.resolve? key))

namespace Schema

def options : Schema → Options
  | leaf _ options => options
  | array options _ => options
  | object options _ _ => options
  | composite _ options _ _ => options

/-- The same node with other options. -/
def withOptions (options : Options) : Schema → Schema
  | leaf kind _ => leaf kind options
  | array _ layout => array options layout
  | object _ own extras => object options own extras
  | composite name _ inner sanitizer => composite name options inner sanitizer

/-- The defaults of leaves and composites. -/
def plainDefaults : Options := KeyMap.empty.insert Options.requiredKey (.bool true)

def arrayDefaults : Options := plainDefaults.insert "uniq" (.bool false)

def objectDefaults : Options := plainDefaults.insert Options.strictKey (.bool false)

/-- The defaults of a node of this kind. -/
def defaults : Schema → Options
  | leaf .. => plainDefaults
  | array .. => arrayDefaults
  | object .. => objectDefaults
  | composite .. => plainDefaults

def ofLeaf (kind : LeafKind) (options : Options) : Schema :=
  leaf kind (options.withDefaults plainDefaults)

def ofLayout (layout : ArrayLayout Schema) (options : Options) : Schema :=
  array (options.withDefaults arrayDefaults) layout

def ofProperties (own : Properties Schema) (extras : List (Properties Schema))
    (options : Options) : Schema :=
  object (options.withDefaults objectDefaults) own extras

def ofInner (name : String) (inner : Schema) (sanitizer : Option Sanitizer) (options : Options) :
    Schema :=
  composite name (options.withDefaults plainDefaults) inner sanitizer

def kindName : Schema → String
  | leaf kind _ => kind.name
  | array .. => "array"
  | object .. => "object"
  | composite .. => "composite"

/-- The options that are not those of the defaults. -/
def ownOptions (schema : Schema) : Options := schema.options.beyond schema.defaults

/-- The documentation in parts. -/
def documentation? (schema : Schema) : Option Documentation :=
  schema.options.doc?.map .ofText

/-- Checks the constraints of a node on its sanitized value. -/
def check (known : Vocabulary) (schema : Schema) (value : Document) :
    Except ValidationError Unit :=
  match schema with
  | leaf _ options => LeafKind.check known options value
  | other => known.check other.options value

end Schema

def ArrayLayout.modeName : ArrayLayout σ → String
  | uniform _ => "homogeneous"
  | positional [] [] => "unconstrained"
  | positional _ _ => "positional"

end Schemata
