import Schemata.Constraint
import Schemata.Format
import Schemata.Options

namespace Schemata

/-- Constraints and formats by name; of two with one name the first counts. -/
structure Vocabulary where
  constraints : List (String × Constraint)
  formats : List (String × Format)

namespace Vocabulary

def standard : Vocabulary :=
  ⟨Constraint.standard, StandardFormat.all.map fun format => (format.name, format.format)⟩

/-- One more constraint, in place of one of the same name. -/
def withConstraint (known : Vocabulary) (name : String) (constraint : Constraint) : Vocabulary :=
  { known with constraints := (name, constraint) :: known.constraints }

/-- One more format, in place of one of the same name. -/
def withFormat (known : Vocabulary) (name : String) (format : Format) : Vocabulary :=
  { known with formats := (name, format) :: known.formats }

def constraint? (known : Vocabulary) (name : String) : Option Constraint :=
  known.constraints.lookup name

def format? (known : Vocabulary) (name : String) : Option Format := known.formats.lookup name

def read (known : Vocabulary) (name : String) : Format := fun text =>
  match known.format? name with
  | some format => format text
  | none => .error (.format name "unknown format")

/-- Checks a value against one option; options that name no constraint ask for nothing. -/
def checkOption (known : Vocabulary) (value : Document) (option : String × Document) :
    Except ValidationError Unit :=
  match known.constraint? option.1 with
  | some constraint => constraint.check value option.2
  | none => .ok ()

/-- Checks a value against the options in the order of their names, up to the first violation. -/
def check (known : Vocabulary) (options : Options) (value : Document) :
    Except ValidationError Unit :=
  options.entries.forM (known.checkOption value)

end Vocabulary

end Schemata
