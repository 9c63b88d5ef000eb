import Schemata.Outline
import Schemata.Validation

namespace Schemata

structure Validator where
  schema : Schema
  slots : Slots := .empty

namespace Validator

/-- What the root holds: the sanitized document of the last validation, unless that failed. -/
def sanitized? (validator : Validator) : Option Document := validator.slots.get? []

def after (validator : Validator) (visit : Visit α) : Validator :=
  { validator with slots := validator.slots.writeAll visit.writes }

def validate (known : Vocabulary) (validator : Validator) (doc : Document) :
    Except ValidationError Document × Validator :=
  let visit := validator.schema.validate known doc
  (visit.outcome, validator.after visit)

def isValid (known : Vocabulary) (validator : Validator) (doc : Document) : Bool × Validator :=
  let (outcome, validator) := validator.validate known doc
  (outcome.isOk, validator)

/-- Validates a document and puts the sanitized document in its place; a document that is rejected
stays as it is. -/
def validateInPlace (known : Vocabulary) (validator : Validator) (doc : Document) :
    Except ValidationError Unit × Document × Validator :=
  match validator.validate known doc with
  | (.ok value, validator) => (.ok (), value, validator)
  | (.error error, validator) => (.error error, doc, validator)

/-- Sanitizes a document without a look at the constraints of the root, whose slot stays as it
is. -/
def sanitize (known : Vocabulary) (validator : Validator) (doc : Document) :
    Except ValidationError Document × Validator :=
  let visit := validator.schema.sanitize known doc
  (visit.outcome, validator.after visit)

def reset (validator : Validator) : Validator := { validator with slots := .empty }

/-- Gives an option of the root a value, and tells the one before. -/
def setOption (validator : Validator) (key : String) (value : Document) :
    Option Document × Validator :=
  let options := validator.schema.options
  (options.get? key,
    { validator with schema := validator.schema.withOptions (options.insert key value) })

/-- Takes an option of the root away, and tells its value. -/
def removeOption (validator : Validator) (key : String) : Option Document × Validator :=
  let options := validator.schema.options
  (options.get? key,
    { validator with schema := validator.schema.withOptions (options.erase key) })

/-- What every node holds, in the order of the outline. -/
def held (validator : Validator) : List (String × Option Document) :=
  validator.schema.outline.nodes.map fun (path, place) => (path, validator.slots.get? place)

end Validator

end Schemata
