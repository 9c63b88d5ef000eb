import Schemata.Definition.Draft
import Schemata.Registry

/-!
Definitions: what is declared about a schema, as data. A block is a list of statements that are
carried out one after the other on a draft; the first that fails ends the block.
-/

namespace Schemata

/-- A change of one option: another value, or none. -/
structure OptionEdit where
  key : String
  value : Option Document
  deriving Repr

def OptionEdit.apply (options : Options) (edit : OptionEdit) : Options :=
  match edit.value with
  | some value => options.insert edit.key value
  | none => options.erase edit.key

mutual

inductive Definition where
  | leaf (kind : LeafKind) (options : Document)
  | array (options : Document) (block : List ArrayStatement)
  | object (options : Document) (block : List ObjectStatement)
  /-- One schema and what is said about it. -/
  | root (block : List RootStatement)
  /-- A use of a registered composite. -/
  | composite (name : String) (options : Document)
  /-- A composite that is not registered. -/
  | inline (name : String) (inner : Definition) (sanitizer : Option Sanitizer) (options : Document)
  /-- A schema the options of which are changed afterwards. -/
  | edited (definition : Definition) (edits : List OptionEdit)

/-- A statement about an array. The two that push take their schemas ready-made, so a fault in one
of them goes before a fault in the array. -/
inductive ArrayStatement where
  | item (definition : Definition)
  | items (definitions : List Definition)
  | extraItems (definitions : List Definition)
  | pushItems (definitions : List Definition)
  | pushExtraItems (definitions : List Definition)

inductive ObjectStatement where
  | property (name : String) (definition : Definition)
  /-- A property for the keys in which the pattern of the given text is found. -/
  | pattern (source : String) (definition : Definition)
  /-- The same for a pattern that has been read before. -/
  | matching (pattern : Regex.Pattern) (definition : Definition)
  | root (name : String) (block : List RootStatement)
  | extra (block : List ObjectStatement)

inductive RootStatement where
  | doc (text : String)
  | schema (definition : Definition)

end

/-- What a statement does to a draft. The draft is there afterwards even if the statement fails. -/
abbrev Revision (δ : Type) := δ → Except DefinitionError Unit × δ

namespace Revision

variable {δ : Type}

/-- Puts another draft in place of the one there is, unless there is an error. -/
def replace (draft : δ) : Except DefinitionError δ → Except DefinitionError Unit × δ
  | .ok revised => (.ok (), revised)
  | .error error => (.error error, draft)

/-- One revision and then another, unless the first fails. -/
def andThen (first second : Revision δ) : Revision δ := fun draft =>
  match first draft with
  | (.ok (), revised) => second revised
  | failed => failed

/-- The draft that a revision makes of another, if it does not fail. -/
def run (revision : Revision δ) (draft : δ) : Except DefinitionError δ :=
  match revision draft with
  | (.ok (), revised) => .ok revised
  | (.error error, _) => .error error

end Revision

namespace Definition

mutual

/-- The schema that a definition declares. Options are read before the block. -/
def build (registry : Registry) : Definition → Except DefinitionError Schema
  | leaf kind options => do return .ofLeaf kind (← Options.ofDocument options)
  | array options block => do
    let options ← Options.ofDocument options
    let draft ← Revision.run (reviseArray registry block) {}
    return .ofLayout draft.layout options
  | object options block => do
    let options ← Options.ofDocument options
    let draft ← Revision.run (reviseObject registry block) {}
    return .ofProperties draft.own draft.extras options
  | root block => do (← Revision.run (reviseRoot registry block) {}).finish
  | composite name options => do
    return (← registry.instantiate name (← Options.ofDocument options)).schema
  | inline name inner sanitizer options => do
    let inner ← build registry inner
    return .ofInner name inner sanitizer (← Options.ofDocument options)
  | edited definition edits => do
    let schema ← build registry definition
    return schema.withOptions (edits.foldl OptionEdit.apply schema.options)

def buildAll (registry : Registry) : List Definition → Except DefinitionError (List Schema)
  | [] => .ok []
  | definition :: rest => do
    let schema ← build registry definition
    let schemas ← buildAll registry rest
    return schema :: schemas

def reviseArray (registry : Registry) : List ArrayStatement → Revision ArrayDraft
  | [] => fun draft => (.ok (), draft)
  | statement :: rest =>
    .andThen (stateArray registry statement) (reviseArray registry rest)

def stateArray (registry : Registry) : ArrayStatement → Revision ArrayDraft
  | .item definition => fun draft =>
    Revision.replace draft do draft.setItem (← build registry definition)
  | .items definitions => fun draft =>
    Revision.replace draft do
      draft.checkPositional
      draft.pushItems (← buildAll registry definitions)
  | .extraItems definitions => fun draft =>
    Revision.replace draft do
      draft.checkPositional
      draft.pushExtraItems (← buildAll registry definitions)
  | .pushItems definitions => fun draft =>
    Revision.replace draft do draft.pushItems (← buildAll registry definitions)
  | .pushExtraItems definitions => fun draft =>
    Revision.replace draft do draft.pushExtraItems (← buildAll registry definitions)

def reviseObject (registry : Registry) : List ObjectStatement → Revision ObjectDraft
  | [] => fun draft => (.ok (), draft)
  | statement :: rest =>
    .andThen (stateObject registry statement) (reviseObject registry rest)

/-- Carries out a statement about an object. The extra properties are taken out of the draft while
their block is carried out, and put back unless the block fails. -/
def stateObject (registry : Registry) : ObjectStatement → Revision ObjectDraft
  | .property name definition => fun draft =>
    Revision.replace draft do draft.addProperty name (← build registry definition)
  | .pattern source definition => fun draft =>
    Revision.replace draft do
      let schema ← build registry definition
      match Regex.Pattern.ofString source with
      | .ok pattern => return draft.addPattern pattern schema
      | .error fault => .error (.invalidPattern source fault)
  | .matching pattern definition => fun draft =>
    Revision.replace draft do return draft.addPattern pattern (← build registry definition)
  | .root name block => fun draft =>
    Revision.replace draft do
      let root ← Revision.run (reviseRoot registry block) {}
      draft.addProperty name (← root.finish)
  | .extra block => fun draft =>
    Revision.replace draft.withoutExtras do
      return draft.withExtras (← Revision.run (reviseObject registry block) draft.extraDraft)

def reviseRoot (registry : Registry) : List RootStatement → Revision RootDraft
  | [] => fun draft => (.ok (), draft)
  | statement :: rest =>
    .andThen (stateRoot registry statement) (reviseRoot registry rest)

def stateRoot (registry : Registry) : RootStatement → Revision RootDraft
  | .doc text => fun draft => (.ok (), { draft with doc := some text })
  | .schema definition => fun draft =>
    Revision.replace draft do draft.setSchema (← build registry definition)

end

end Definition

/-- A composite that is to be registered under a name. -/
structure Registration where
  name : String
  definition : Definition
  sanitizer : Option Sanitizer := none

/-- Carries out a registration: first the schema is built, from the composites there are, and then
the name is looked at. -/
def Registry.apply (registry : Registry) (registration : Registration) :
    Except DefinitionError Registry := do
  let schema ← registration.definition.build registry
  Revision.run (register registration.name ⟨{ schema }, registration.sanitizer⟩) registry

end Schemata
