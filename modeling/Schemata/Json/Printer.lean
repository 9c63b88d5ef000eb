import Schemata.Decimal.FloatText
import Schemata.Json

namespace Schemata

open Schemata.Text

def JsonNumber.text : JsonNumber → List Char
  | natural n => digitsOf 10 n.toNat
  | negative n _ => '-' :: digitsOf 10 n.toInt.natAbs
  | float x _ => (Decimal.floatText x).toList

namespace Json

/-- A character inside a quoted text. Quotes, backslashes and control characters are escaped. -/
def escaped (c : Char) : List Char :=
  match c with
  | '"' => ['\\', '"']
  | '\\' => ['\\', '\\']
  | '\x08' => ['\\', 'b']
  | '\x0C' => ['\\', 'f']
  | '\n' => ['\\', 'n']
  | '\r' => ['\\', 'r']
  | '\t' => ['\\', 't']
  | c => if c.toNat < 32 then '\\' :: 'u' :: padded 16 4 c.toNat else [c]

def quoted (s : String) : List Char := '"' :: s.toList.flatMap escaped ++ ['"']

mutual

def text : Json → List Char
  | null => "null".toList
  | bool b => (if b then "true" else "false").toList
  | number n => n.text
  | string s => quoted s
  | array items => '[' :: itemsText items ++ [']']
  | object members => '\x7b' :: membersText members.entries ++ ['\x7d']

/-- The texts of values with commas between them. -/
def itemsText : List Json → List Char
  | [] => []
  | [item] => item.text
  | item :: rest => item.text ++ ',' :: itemsText rest

def membersText : List (String × Json) → List Char
  | [] => []
  | [(key, value)] => quoted key ++ ':' :: value.text
  | (key, value) :: rest => quoted key ++ ':' :: (value.text ++ ',' :: membersText rest)

end

def render (value : Json) : String := String.ofList value.text

end Json

end Schemata
