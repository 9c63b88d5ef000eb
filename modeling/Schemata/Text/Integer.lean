import Schemata.Text.Digits

namespace Schemata.Text

/-- The digits of a text that has nothing else and at least one of them, as a number. -/
def natural? (text : List Char) : Option Nat :=
  if !text.isEmpty && text.all Char.isDigit then some (numberIn 10 text) else none

/-- The number of a text, of any size. -/
def integer? : List Char → Option Int
  | '-' :: rest => (natural? rest).map fun n => -n
  | '+' :: rest => (natural? rest).map Int.ofNat
  | text => (natural? text).map Int.ofNat

/-- The number of a text, if 64 bits with sign hold it. -/
def int64? (text : List Char) : Option Int64 :=
  (integer? text).bind fun n =>
    if Int64.minValue.toInt ≤ n ∧ n ≤ Int64.maxValue.toInt then some (Int64.ofInt n) else none

end Schemata.Text
