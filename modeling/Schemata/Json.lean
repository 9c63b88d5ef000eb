import Schemata.Decimal.Binary
import Schemata.KeyMap

namespace Schemata

/-- A number, held in one way only: an integer from zero up, an integer below zero, or a finite
float, whole or not. -/
inductive JsonNumber where
  | natural (n : UInt64)
  | negative (n : Int64) (below : n < 0)
  | float (x : Float) (finite : (Decimal.Binary.ofFloat? x).isSome)
  deriving Repr, DecidableEq

inductive Json where
  | null
  | bool (b : Bool)
  | number (n : JsonNumber)
  | string (s : String)
  | array (items : List Json)
  | object (members : KeyMap Json)
  deriving Repr, Inhabited

namespace JsonNumber

def ofInt64 (n : Int64) : JsonNumber :=
  if below : n < 0 then negative n below else natural n.toUInt64

def ofFloat? (x : Float) : Option JsonNumber :=
  if finite : (Decimal.Binary.ofFloat? x).isSome then some (float x finite) else none

end JsonNumber

namespace Json

def ofInt64 (n : Int64) : Json := number (.ofInt64 n)

/-- The value of a float; NaN and the infinities have no number and become null. -/
def ofFloat (x : Float) : Json := ((JsonNumber.ofFloat? x).map number).getD null

end Json

end Schemata
