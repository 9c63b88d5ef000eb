import Schemata.Unicode.CharSet

namespace Schemata.Unicode

/-- The property White_Space. -/
def whiteSpace : CharSet :=
  .unions [.range '\t' '\r', .single ' ', .single '\u0085', .single '\u00A0', .single '\u1680',
    .range '\u2000' '\u200A', .range '\u2028' '\u2029', .single '\u202F', .single '\u205F',
    .single '\u3000']

def isBlank (c : Char) : Bool := whiteSpace.contains c

/-- A text without the blanks at its start and at its end. -/
def trim (text : List Char) : List Char :=
  ((text.dropWhile isBlank).reverse.dropWhile isBlank).reverse

end Schemata.Unicode
