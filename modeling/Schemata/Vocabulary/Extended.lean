import Schemata.Schema

namespace Schemata

namespace Constraint

/-- The value is 42, whatever the argument. -/
def universal : Constraint where
  check value _ :=
    match value with
    | .integer 42 => .ok ()
    | _ => .error (.constraint "universal" "not the answer")
  describe _ := (KeyMap.empty.insert "minimum" (.ofInt64 42)).insert "maximum" (.ofInt64 42)

/-- The argument is the name of the value's kind; a violation is located under the key `type`. -/
def kindNamed : Constraint where
  check value argument :=
    if argument.string? = some value.kind.name then .ok ()
    else .error ((ValidationError.constraint "x_type" value.kind.name).atKey "type")

end Constraint

namespace Format

/-- Texts of small letters. -/
def lower : Format := ofPattern "x_lower" (.ofValid "^[a-z]+$" (by rfl))

def upperLetter (c : Char) : Char := if c.isLower then c.toUpper else c

/-- Texts that are not empty, each standing for itself with the letters of ASCII in upper case. -/
def upper : Format := fun text =>
  if text.isEmpty then .error (.format "x_upper" "empty")
  else .ok (.string (text.map upperLetter))

end Format

namespace Vocabulary

/-- The standard vocabulary with two more constraints and two more formats. -/
def extended : Vocabulary :=
  (((standard.withConstraint "universal" .universal).withConstraint "x_type" .kindNamed).withFormat
    "x_lower" .lower).withFormat "x_upper" .upper

end Vocabulary

namespace Sanitizer

/-- The integers of an array as the bytes of one integer, the first highest; what does not fit in 64
bits is lost. -/
def packedColour : Sanitizer
  | .array items =>
    let channels := items.filterMap Document.integer?
    .ok (.integer (channels.foldl (fun packed channel => packed <<< 8 ||| channel) 0))
  | other => .error (.typeMismatch "array" other)

/-- The items of an array under the names of the channels of a colour, as far as there are both. -/
def colourChannels : Sanitizer
  | .array items => .ok (.object (.ofList (["r", "g", "b", "a"].zip items)))
  | other => .error (.typeMismatch "array" other)

def rejecting : Sanitizer := fun value =>
  .error ((ValidationError.constraint "sanitizer" value.shown).atIndex 7)

/-- The sanitizers by name. -/
def ofName? (name : String) : Option Sanitizer :=
  [("rgb", packedColour), ("rgba", colourChannels), ("reject", rejecting)].lookup name

end Sanitizer

end Schemata
