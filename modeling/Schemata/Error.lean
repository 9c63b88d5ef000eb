import Schemata.Document
import Schemata.Regex.PatternError

namespace Schemata

/-- One step down into a document. -/
inductive PathSegment where
  | key (name : String)
  | index (index : Nat)
  deriving Repr, DecidableEq

/-- A step as it is shown in a path. -/
def PathSegment.shown : PathSegment → String
  | key name => s!".{name}"
  | index position => s!"[{position}]"

/-- Why a document is rejected. -/
inductive Fault where
  | typeMismatch (expected : String) (actual : Document.Kind)
  | format (name reason : String)
  | constraint (name reason : String)
  | sizeMismatch (expected actual : Nat)
  | missingKey (key : String)
  | unknownKey (key : String)
  deriving Repr, DecidableEq

namespace Fault

/-- A short name for the kind of fault. -/
def code : Fault → String
  | typeMismatch .. => "SCHEMA_TYPE_MISMATCH"
  | format .. => "SCHEMA_FORMAT_ERROR"
  | constraint .. => "SCHEMA_CONSTRAINT_VIOLATION"
  | sizeMismatch .. => "SCHEMA_SIZE_MISMATCH"
  | missingKey _ => "SCHEMA_MISSING_KEY"
  | unknownKey _ => "SCHEMA_UNKNOWN_KEY"

def message : Fault → String
  | typeMismatch expected actual => s!"expected {expected}, got {actual.name}"
  | format name reason => s!"invalid {name}: {reason}"
  | constraint name reason => s!"constraint '{name}' violated: {reason}"
  | sizeMismatch expected actual => s!"expected at least {expected} items, got {actual}"
  | missingKey key => s!"missing required key '{key}'"
  | unknownKey key => s!"unexpected key '{key}'"

end Fault

/-- A fault and where in the document it is, from the root down. -/
structure ValidationError where
  fault : Fault
  path : List PathSegment := []
  deriving Repr, DecidableEq

namespace ValidationError

/-- The document is of another kind than expected. -/
def typeMismatch (expected : String) (actual : Document) : ValidationError :=
  ⟨.typeMismatch expected actual.kind, []⟩

/-- The text is not of the format. -/
def format (name reason : String) : ValidationError := ⟨.format name reason, []⟩

/-- The value does not satisfy the constraint. -/
def constraint (name reason : String) : ValidationError := ⟨.constraint name reason, []⟩

/-- The same error seen from one step further up. -/
def under (segment : PathSegment) (error : ValidationError) : ValidationError :=
  ⟨error.fault, segment :: error.path⟩

def atKey (key : String) (error : ValidationError) : ValidationError := error.under (.key key)

def atIndex (index : Nat) (error : ValidationError) : ValidationError :=
  error.under (.index index)

/-- The path in words, such as `root.items[2].price`. -/
def pathText (error : ValidationError) : String :=
  error.path.foldl (fun text segment => text ++ segment.shown) "root"

def message (error : ValidationError) : String :=
  s!"{error.pathText}: {error.fault.message} ({error.fault.code})"

end ValidationError

/-- Why a schema cannot be defined as asked. -/
inductive DefinitionError where
  | mixedItemModes
  | duplicateItem
  | duplicateProperty (name : String)
  | invalidPattern (source : String) (fault : Regex.PatternError)
  | invalidOptions (actual : Document.Kind)
  | emptyDefinition
  | multipleRoots
  | unknownComposite (name : String)
  | compositeAlreadyRegistered (name : String)
  deriving Repr, DecidableEq

def DefinitionError.message : DefinitionError → String
  | mixedItemModes => "cannot mix a homogeneous item schema with items/extra_items"
  | duplicateItem => "homogeneous item schema already defined"
  | duplicateProperty name => s!"property '{name}' already defined"
  | invalidPattern source fault => s!"invalid pattern '{source}': {fault.message}"
  | invalidOptions actual => s!"invalid options: expected an object, got {actual.name}"
  | emptyDefinition => "definition block produced no schema"
  | multipleRoots => "definition block accepts exactly one schema statement"
  | unknownComposite name => s!"unknown composite schema '{name}'"
  | compositeAlreadyRegistered name => s!"composite schema '{name}' is already registered"

inductive Error where
  | definition (error : DefinitionError)
  | validation (error : ValidationError)
  deriving Repr, DecidableEq

def Error.message : Error → String
  | definition error => s!"schema definition error: {error.message}"
  | validation error => s!"validation error: {error.message}"

end Schemata
