import Schemata.Validator

namespace Schemata

namespace Schema

mutual

/-- The places of the slots that a schema empties: its own, and then those of the schemas below
it. -/
def slotPlaces : Schema → List Place
  | leaf .. => [[]]
  | array _ layout => [] :: layoutPlaces layout
  | object _ own extras => [] :: (ownPlaces own ++ extraPlaces extras)
  | composite _ _ inner _ => [] :: (slotPlaces inner).map (.inner :: ·)

def layoutPlaces : ArrayLayout Schema → List Place
  | .uniform item => (slotPlaces item).map (.item :: ·)
  | .positional items extraItems =>
    itemPlaces .items 0 items ++ itemPlaces .extraItems 0 extraItems

/-- The places in a list of schemas, which are numbered from `index` on. -/
def itemPlaces (step : Nat → Step) (index : Nat) : List Schema → List Place
  | [] => []
  | schema :: rest =>
    (slotPlaces schema).map (step index :: ·) ++ itemPlaces step (index + 1) rest

def ownPlaces : Properties Schema → List Place
  | ⟨named, patterns⟩ => namedPlaces named ++ patternPlaces 0 patterns

def namedPlaces : List (String × Schema) → List Place
  | [] => []
  | (name, schema) :: rest => (slotPlaces schema).map (.property name :: ·) ++ namedPlaces rest

/-- The places in pattern properties, which are numbered from `index` on. -/
def patternPlaces (index : Nat) : List (Regex.Pattern × Schema) → List Place
  | [] => []
  | (_, schema) :: rest =>
    (slotPlaces schema).map (.pattern index :: ·) ++ patternPlaces (index + 1) rest

/-- The places in extra properties, each one step further. -/
def extraPlaces : List (Properties Schema) → List Place
  | [] => []
  | properties :: deeper => (ownPlaces properties ++ extraPlaces deeper).map (.extra :: ·)

end

end Schema

/-- The validator after it has gone through its nodes and emptied their slots. -/
def Validator.emptied (validator : Validator) : Validator :=
  { validator with slots := validator.slots.writeAll (validator.schema.slotPlaces.map (·, none)) }

end Schemata
