import Schemata.Emptying

namespace Schemata

/-- A registered schema, and what gives its uses their value, if anything does. -/
structure Template extends Validator where
  sanitizer : Option Sanitizer := none

structure Registry where
  templates : KeyMap Template

namespace Registry

def empty : Registry := ⟨.empty⟩

def get? (registry : Registry) (name : String) : Option Schema :=
  (registry.templates.get? name).map (·.schema)

def contains (registry : Registry) (name : String) : Bool := registry.templates.contains name

def names (registry : Registry) : List String := registry.templates.keys

def size (registry : Registry) : Nat := registry.templates.size

def isEmpty (registry : Registry) : Bool := registry.templates.isEmpty

/-- Registers a template under a name that is not in use, and empties its slots first. The registry
is there afterwards even if the name is in use. -/
def register (name : String) (template : Template) (registry : Registry) :
    Except DefinitionError Unit × Registry :=
  if registry.contains name then (.error (.compositeAlreadyRegistered name), registry)
  else (.ok (), ⟨registry.templates.insert name ⟨template.emptied, template.sanitizer⟩⟩)

/-- A use of the composite of the given name, with options of its own. It holds what the template
does. -/
def instantiate (registry : Registry) (name : String) (options : Options) :
    Except DefinitionError Validator :=
  match registry.templates.get? name with
  | some template =>
    .ok ⟨.ofInner name template.schema template.sanitizer options, template.slots.within .inner⟩
  | none => .error (.unknownComposite name)

end Registry

end Schemata
