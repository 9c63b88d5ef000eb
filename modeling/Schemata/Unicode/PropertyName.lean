import Schemata.Unicode.Age
import Schemata.Unicode.BinaryProperty
import Schemata.Unicode.GraphemeBreak
import Schemata.Unicode.Script
import Schemata.Unicode.ScriptExtension
import Schemata.Unicode.SentenceBreak
import Schemata.Unicode.WordBreak

namespace Schemata.Unicode

/-- The letters that a name is compared by: an initial `is`, blanks, hyphens, underscores and
everything outside ASCII dropped, in lower case. The name `isc` keeps its initial letters. -/
def comparedName (name : List Char) : String :=
  let kept (letters : List Char) : List Char :=
    (letters.filter fun c => !(c == ' ' || c == '_' || c == '-') && c.toNat < 128).map Char.toLower
  match name with
  | i :: s :: rest =>
    if i.toLower == 'i' && s.toLower == 's' then
      if kept rest = ['c'] then "isc" else String.ofList (kept rest)
    else String.ofList (kept name)
  | short => String.ofList (kept short)

/-- The first entry that goes by the name. -/
def named? (entries : List (List String × α)) (name : String) : Option α :=
  (entries.find? (·.1.contains name)).map Prod.snd

/-- The characters of one table among several. -/
def tableNamed? (tables : List (List String × RangeTable)) (name : String) : Option CharSet :=
  (named? tables name).map .table

/-- A general category, a group of them, or one of `any`, `assigned` and `ascii`. -/
def category? (name : String) : Option CharSet :=
  if name = "any" then some .all
  else if name = "assigned" then some (.compl (.table Category.unassigned))
  else if name = "ascii" then some (.range '\x00' '\x7F')
  else (tableNamed? Category.named name).or ((named? Category.groups name).map .ofTables)

/-- A script. -/
def script? : String → Option CharSet := tableNamed? Script.named

/-- The characters used with a script. -/
def scriptExtension? (name : String) : Option CharSet :=
  (tableNamed? ScriptExtension.named name).or (script? name)

/-- The characters that a version of the character set knows: what it and those before it added. -/
def age? (name : String) : Option CharSet :=
  (Age.named.findIdx? (·.1.contains name)).map fun place =>
    .ofTables ((Age.named.take (place + 1)).map Prod.snd)

/-- The properties with several values, each with the names it goes by and its values by name. -/
def valued : List (List String × (String → Option CharSet)) := [
  (["gc", "generalcategory"], category?),
  (["sc", "script"], script?),
  (["scx", "scriptextensions"], scriptExtension?),
  (["age"], age?),
  (["gcb", "graphemeclusterbreak"], tableNamed? GraphemeBreak.named),
  (["wb", "wordbreak"], tableNamed? WordBreak.named),
  (["sb", "sentencebreak"], tableNamed? SentenceBreak.named)]

/-- The property a single name stands for: a two-valued property, else a category, else a script.
Three names of categories are also short for properties of other kinds and mean the category. -/
def property? (name : List Char) : Option CharSet :=
  let compared := comparedName name
  let binary := if ["cf", "sc", "lc"].contains compared then none
    else named? BinaryProperty.named compared
  (binary.or (category? compared)).or (script? compared)

/-- The characters for which the named property has the named value. -/
def propertyValue? (name value : List Char) : Option CharSet := do
  (← named? valued (comparedName name)) (comparedName value)

/-- Decimal digits of every script. -/
def digits : CharSet := .table Category.decimalNumber

/-- Letters, marks, decimal digits, connecting punctuation and the two joining characters; the
ASCII part stands first. -/
def wordChars : CharSet :=
  .unions [.range 'a' 'z', .range 'A' 'Z', .range '0' '9', .single '_', BinaryProperty.alphabetic,
    BinaryProperty.mark, digits, .table Category.connectorPunctuation, BinaryProperty.joinControl]

/-- Letters, digits and the underscore of ASCII. -/
def asciiWordChars : CharSet :=
  .unions [.range 'a' 'z', .range 'A' 'Z', .range '0' '9', .single '_']

/-- Characters with a numeric value by their category. -/
def numberChars : CharSet :=
  .ofTables [Category.decimalNumber, Category.letterNumber, Category.otherNumber]

end Schemata.Unicode
