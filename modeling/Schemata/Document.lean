import Schemata.Address
import Schemata.DateTime
import Schemata.KeyMap

/-!
Documents: the nested values that schemas describe. A document read from JSON has no dates and no
addresses; a sanitized one may.
-/

namespace Schemata

inductive Document where
  | null
  | bool (b : Bool)
  | integer (n : Int64)
  | float (x : Float)
  | string (s : String)
  | dateTime (moment : DateTime)
  | address (address : Address)
  | array (items : List Document)
  | object (members : KeyMap Document)
  deriving Repr, Inhabited

namespace Document

inductive Kind where
  | null
  | boolean
  | integer
  | float
  | string
  | dateTime
  | address
  | array
  | object
  deriving Repr, DecidableEq

def Kind.name : Kind → String
  | null => "null"
  | boolean => "boolean"
  | integer => "integer"
  | float => "float"
  | string => "string"
  | dateTime => "datetime"
  | address => "ipaddr"
  | array => "array"
  | object => "object"

def kind : Document → Kind
  | null => .null
  | bool _ => .boolean
  | integer _ => .integer
  | float _ => .float
  | string _ => .string
  | dateTime _ => .dateTime
  | address _ => .address
  | array _ => .array
  | object _ => .object

def isNull : Document → Bool
  | null => true
  | _ => false

def bool? : Document → Option Bool
  | bool b => some b
  | _ => none

def integer? : Document → Option Int64
  | integer n => some n
  | _ => none

/-- The float closest to an integer. -/
def floatOfInteger (n : Int64) : Float := Float.ofInt n.toInt

/-- The number of the document as a float, integers included. -/
def float? : Document → Option Float
  | integer n => some (floatOfInteger n)
  | float x => some x
  | _ => none

def string? : Document → Option String
  | string s => some s
  | _ => none

def array? : Document → Option (List Document)
  | array items => some items
  | _ => none

def object? : Document → Option (KeyMap Document)
  | object members => some members
  | _ => none

def isNumber : Document → Bool
  | integer _ => true
  | float _ => true
  | _ => false

mutual

/-- Whether two documents hold the same values in the same places. Integers and floats are never the
same, NaN is not the same as itself, both zeros are the same, and so are dates and times of one
instant. -/
def same : Document → Document → Bool
  | null, null => true
  | bool a, bool b => a == b
  | integer a, integer b => a == b
  | float a, float b => a == b
  | string a, string b => a == b
  | dateTime a, dateTime b => a.same b
  | address a, address b => a == b
  | array a, array b => sameItems a b
  | object a, object b => sameMembers a.entries b.entries
  | _, _ => false

def sameItems : List Document → List Document → Bool
  | [], [] => true
  | a :: as, b :: bs => same a b && sameItems as bs
  | _, _ => false

def sameMembers : List (String × Document) → List (String × Document) → Bool
  | [], [] => true
  | (key, a) :: as, (other, b) :: bs => key == other && same a b && sameMembers as bs
  | _, _ => false

end

/-- The order of two floats; none if one of them is NaN. -/
def compareFloats (a b : Float) : Option Ordering :=
  if a < b then some .lt else if a == b then some .eq else if b < a then some .gt else none

/-- The order of two documents: of integers exactly, of other numbers as floats, of dates in time.
Other pairs have none. -/
def compare? : Document → Document → Option Ordering
  | integer a, integer b => some (compare a.toInt b.toInt)
  | dateTime a, dateTime b => some (a.compare b)
  | a, b => do compareFloats (← a.float?) (← b.float?)

/-- Whether two documents are the same value where an integer may be the same as a float. -/
def equals (a b : Document) : Bool :=
  if a.isNumber && b.isNumber then a.compare? b == some .eq else a.same b

end Document

end Schemata
