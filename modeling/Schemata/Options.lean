import Schemata.Error

namespace Schemata

/-- Arguments by name. -/
abbrev Options := KeyMap Document

namespace Options

/-- Whether a property has to be present. -/
def requiredKey : String := "required"

/-- What stands for a property that is absent. -/
def defaultKey : String := "default"

/-- Documentation, or `false` for a schema that is not to be shown. -/
def docKey : String := "doc"

/-- Whether null stands for any value of a leaf. -/
def allowNilKey : String := "allow_nil"

/-- Whether an object rejects keys that no property matches. -/
def strictKey : String := "strict"

/-- The format of a text. -/
def formatKey : String := "format"

/-- The options that a document holds, which has to be an object. -/
def ofDocument : Document → Except DefinitionError Options
  | .object members => .ok members
  | other => .error (.invalidOptions other.kind)

/-- A truth value among the options; anything else counts as not given. -/
def flag (options : Options) (key : String) (otherwise : Bool) : Bool :=
  ((options.get? key).bind Document.bool?).getD otherwise

def required (options : Options) : Bool := options.flag requiredKey true

def default? (options : Options) : Option Document := options.get? defaultKey

/-- The documentation, where it is a text. -/
def doc? (options : Options) : Option String := (options.get? docKey).bind Document.string?

/-- Whether the schema is hidden from descriptions. -/
def isHidden (options : Options) : Bool :=
  match options.get? docKey with
  | some (.bool false) => true
  | _ => false

def allowNil (options : Options) : Bool := options.flag allowNilKey false

def strict (options : Options) : Bool := options.flag strictKey false

def format? (options : Options) : Option String :=
  (options.get? formatKey).bind Document.string?

/-- The options laid over defaults: what they do not hold is taken from there. -/
def withDefaults (options defaults : Options) : Options := KeyMap.overlay defaults options

/-- The options whose value is not that of the defaults. -/
def beyond (options defaults : Options) : Options :=
  options.filter fun key value =>
    match defaults.get? key with
    | none => true
    | some usual => !usual.same value

def same (left right : Options) : Bool := Document.sameMembers left.entries right.entries

end Options

end Schemata
