import Schemata.Schema

namespace Schemata

/-- An array being defined. -/
structure ArrayDraft where
  item : Option Schema := none
  items : List Schema := []
  extraItems : List Schema := []

namespace ArrayDraft

/-- Items by position do not go with one schema for all items. -/
def checkPositional (draft : ArrayDraft) : Except DefinitionError Unit :=
  if draft.item.isSome then .error .mixedItemModes else .ok ()

def setItem (draft : ArrayDraft) (schema : Schema) : Except DefinitionError ArrayDraft :=
  if !draft.items.isEmpty || !draft.extraItems.isEmpty then .error .mixedItemModes
  else if draft.item.isSome then .error .duplicateItem
  else .ok { draft with item := some schema }

/-- Records schemas of further positions that have to be there. -/
def pushItems (draft : ArrayDraft) (schemas : List Schema) : Except DefinitionError ArrayDraft := do
  draft.checkPositional
  return { draft with items := draft.items ++ schemas }

/-- Records schemas of further positions that may be there. -/
def pushExtraItems (draft : ArrayDraft) (schemas : List Schema) :
    Except DefinitionError ArrayDraft := do
  draft.checkPositional
  return { draft with extraItems := draft.extraItems ++ schemas }

/-- What the items have to match in the end. -/
def layout (draft : ArrayDraft) : ArrayLayout Schema :=
  match draft.item with
  | some item => .uniform item
  | none => .positional draft.items draft.extraItems

end ArrayDraft

/-- An object being defined. -/
structure ObjectDraft where
  own : Properties Schema := {}
  extras : List (Properties Schema) := []

namespace ObjectDraft

def addProperty (draft : ObjectDraft) (name : String) (schema : Schema) :
    Except DefinitionError ObjectDraft :=
  if (draft.own.named? name).isSome then .error (.duplicateProperty name)
  else .ok { draft with own := { draft.own with named := draft.own.named ++ [(name, schema)] } }

def addPattern (draft : ObjectDraft) (pattern : Regex.Pattern) (schema : Schema) : ObjectDraft :=
  { draft with own := { draft.own with patterns := draft.own.patterns ++ [(pattern, schema)] } }

/-- The extra properties as a draft of their own, empty if there are none yet. -/
def extraDraft (draft : ObjectDraft) : ObjectDraft :=
  match draft.extras with
  | [] => {}
  | own :: extras => ⟨own, extras⟩

def withoutExtras (draft : ObjectDraft) : ObjectDraft := { draft with extras := [] }

/-- The draft with the extra properties of another draft. -/
def withExtras (draft extra : ObjectDraft) : ObjectDraft :=
  { draft with extras := extra.own :: extra.extras }

end ObjectDraft

/-- A root being defined: one schema and a text about it. -/
structure RootDraft where
  schema : Option Schema := none
  doc : Option String := none

namespace RootDraft

def setSchema (draft : RootDraft) (schema : Schema) : Except DefinitionError RootDraft :=
  if draft.schema.isSome then .error .multipleRoots else .ok { draft with schema := some schema }

/-- The schema with the text among its options. -/
def finish (draft : RootDraft) : Except DefinitionError Schema :=
  match draft.schema, draft.doc with
  | none, _ => .error .emptyDefinition
  | some schema, none => .ok schema
  | some schema, some text =>
    .ok (schema.withOptions (schema.options.insert Options.docKey (.string text)))

end RootDraft

end Schemata
