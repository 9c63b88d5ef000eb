import Schemata.Schema

/-!
Descriptions of schemas in JSON Schema, draft 3. Hidden nodes are left out with all that is below
them.
-/

namespace Schemata.Draft3

/-- The members of a description. -/
abbrev Description := KeyMap Json

/-- The options that no keyword of their own describes. -/
def structuralKeys : List String :=
  [Options.requiredKey, Options.docKey, Options.allowNilKey, Options.strictKey, Options.formatKey]

def describeOption (known : Vocabulary) (description : Description)
    (option : String × Document) : Description :=
  let (name, argument) := option
  if structuralKeys.contains name then description
  else if name = Options.defaultKey then description.insert "default" argument.toJson
  else match known.constraint? name with
    | some constraint => description.overlay (constraint.describe argument)
    | none => description

/-- Adds the keywords of options in the order of their names. -/
def describeOptions (known : Vocabulary) (options : Options) (description : Description) :
    Description :=
  options.entries.foldl (describeOption known) description

/-- Adds title and description. -/
def describeDocumentation (documentation : Option Documentation) (description : Description) :
    Description :=
  let addText (key : String) (text : Option String) (description : Description) :=
    match text with
    | some text => description.insert key (.string text)
    | none => description
  match documentation with
  | some parts => addText "description" parts.description (addText "title" parts.title description)
  | none => description

/-- The description of a type without further keywords. -/
def ofType (name : String) : Description := KeyMap.empty.insert "type" (.string name)

/-- The name of a format here. Addresses of either version have none. -/
def formatName? (format : String) : Option String :=
  match StandardFormat.ofName? format with
  | some .regexp => some "regex"
  | some .dateTime => some "date-time"
  | some .ipv4 => some "ip-address"
  | some .hostname => some "host-name"
  | some .ip => none
  | _ => some format

def typeName : LeafKind → String
  | .any => "any"
  | .null => "null"
  | .boolean => "boolean"
  | .integer => "integer"
  | .float => "number"
  | .numeric => "number"
  | .string => "string"
  | .formatted _ => "string"

/-- The description of a leaf. The format of its kind goes before the one among its options. -/
def ofLeaf (kind : LeafKind) (options : Options) : Description :=
  let description := ofType (typeName kind)
  match ((kind.format?.map StandardFormat.name).or options.format?).bind formatName? with
  | some name => description.insert "format" (.string name)
  | none => description

/-- Adds a keyword that takes a list, unless the list is empty. -/
def insertList (key : String) (items : List Json) (description : Description) : Description :=
  if items.isEmpty then description else description.insert key (.array items)

/-- Adds a keyword that takes descriptions by name, unless there are none. -/
def insertMap (key : String) (members : KeyMap Json) (description : Description) : Description :=
  if members.isEmpty then description else description.insert key (.object members)

/-- A description with the remark that what it describes is required. -/
def required (description : Description) : Json :=
  .object (description.insert "required" (.bool true))

/-- A property with the description of its schema, if that is not hidden. -/
structure Property where
  name : String
  /-- Whether the property has to be given: it is required and has no default. -/
  demanded : Bool
  description : Description

/-- What the described properties of one level come to. -/
structure Level where
  named : List Property
  patterns : List Property

/-- Entries made from properties; of two with one name the later counts. -/
def entries (entry : Property → Json) (properties : List Property) (map : KeyMap Json) :
    KeyMap Json :=
  properties.foldl (fun map property => map.insert property.name (entry property)) map

/-- The description of an object. Named properties that must be given stand under `properties`, all
other named ones under `additionalProperties`; extra patterns are not marked as required. -/
def ofLevels (strict : Bool) (own : Level) (extra : Option Level) : Description :=
  let plain (property : Property) : Json := .object property.description
  let marked (property : Property) : Json := required property.description
  let extra := extra.getD ⟨[], []⟩
  let properties := entries marked (own.named.filter (·.demanded)) .empty
  let additional := entries plain (own.named.filter (!·.demanded) ++ extra.named) .empty
  let patterns := entries plain extra.patterns (entries marked own.patterns .empty)
  let description :=
    insertMap "patternProperties" patterns (insertMap "properties" properties (ofType "object"))
  if additional.isEmpty && strict then description.insert "additionalProperties" (.bool false)
  else insertMap "additionalProperties" additional description

/-- Adds to what the kind of a node comes to its documentation and its options; none if the node is
hidden. -/
def finish? (known : Vocabulary) (schema : Schema) (ofKind : Option Description) :
    Option Description :=
  if schema.options.isHidden then none
  else ofKind.map fun description =>
    describeOptions known schema.ownOptions
      (describeDocumentation schema.documentation? description)

mutual

/-- The description of a node; none if it is hidden. A composite comes to what its inner schema
does. -/
def describe? (known : Vocabulary) : Schema → Option Description
  | .leaf kind options => finish? known (.leaf kind options) (some (ofLeaf kind options))
  | .array options layout =>
    finish? known (.array options layout) (some (describeLayout known layout))
  | .object options own extras =>
    finish? known (.object options own extras)
      (some (ofLevels options.strict (describeLevel known own) (describeFirst? known extras)))
  | .composite name options inner sanitizer =>
    finish? known (.composite name options inner sanitizer) (describe? known inner)

def describeLayout (known : Vocabulary) : ArrayLayout Schema → Description
  | .uniform item =>
    match describe? known item with
    | some description => (ofType "array").insert "items" (.object description)
    | none => ofType "array"
  | .positional items extraItems =>
    insertList "additionalItems" (describeAll known extraItems)
      (insertList "items" (describeAll known items) (ofType "array"))

/-- The descriptions of the schemas that are not hidden. -/
def describeAll (known : Vocabulary) : List Schema → List Json
  | [] => []
  | schema :: rest =>
    match describe? known schema with
    | some description => .object description :: describeAll known rest
    | none => describeAll known rest

def describeLevel (known : Vocabulary) : Properties Schema → Level
  | ⟨named, patterns⟩ => ⟨describeNamed known named, describePatterns known patterns⟩

def describeNamed (known : Vocabulary) : List (String × Schema) → List Property
  | [] => []
  | (name, schema) :: rest =>
    match describe? known schema with
    | some description =>
      ⟨name, schema.options.required && schema.options.default?.isNone, description⟩ ::
        describeNamed known rest
    | none => describeNamed known rest

/-- The described pattern properties, by the text of the pattern. -/
def describePatterns (known : Vocabulary) : List (Regex.Pattern × Schema) → List Property
  | [] => []
  | (pattern, schema) :: rest =>
    match describe? known schema with
    | some description => ⟨pattern.source, true, description⟩ :: describePatterns known rest
    | none => describePatterns known rest

/-- The first level of extra properties. -/
def describeFirst? (known : Vocabulary) : List (Properties Schema) → Option Level
  | [] => none
  | properties :: _ => some (describeLevel known properties)

end

/-- The description of a schema as a JSON value. -/
def ofSchema? (known : Vocabulary) (schema : Schema) : Option Json :=
  (describe? known schema).map .object

end Schemata.Draft3
