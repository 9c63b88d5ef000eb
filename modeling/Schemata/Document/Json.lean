import Schemata.Address.Printer
import Schemata.DateTime.Printer
import Schemata.Document
import Schemata.Json.Printer
import Schemata.Text.Quoted

namespace Schemata.Document

mutual

/-- The JSON value of a document. Dates and addresses become their texts; NaN and the infinities
become null. -/
def toJson : Document → Json
  | null => .null
  | bool b => .bool b
  | integer n => .ofInt64 n
  | float x => .ofFloat x
  | string s => .string s
  | dateTime moment => .string (String.ofList moment.text)
  | address place => .string (String.ofList place.text)
  | array items => .array (itemsToJson items)
  | object members => .object ⟨membersToJson members.entries⟩

def itemsToJson : List Document → List Json
  | [] => []
  | item :: rest => item.toJson :: itemsToJson rest

def membersToJson : List (String × Document) → List (String × Json)
  | [] => []
  | (key, value) :: rest => (key, value.toJson) :: membersToJson rest

end

/-- The document of a number: an integer if it is one of 64 bits with sign, else a float. -/
def ofNumber : JsonNumber → Document
  | .natural n =>
    if (n.toNat : Int) ≤ Int64.maxValue.toInt then integer n.toInt64
    else float (Float.ofNat n.toNat)
  | .negative n _ => integer n
  | .float x _ => float x

mutual

def ofJson : Json → Document
  | .null => null
  | .bool b => bool b
  | .number n => ofNumber n
  | .string s => string s
  | .array items => array (itemsOfJson items)
  | .object members => object ⟨membersOfJson members.entries⟩

def itemsOfJson : List Json → List Document
  | [] => []
  | item :: rest => ofJson item :: itemsOfJson rest

def membersOfJson : List (String × Json) → List (String × Document)
  | [] => []
  | (key, value) :: rest => (key, ofJson value) :: membersOfJson rest

end

/-- A document in a message: a text in quotes, everything else as JSON. -/
def shown : Document → String
  | string s => Text.quoted s
  | other => other.toJson.render

end Schemata.Document
