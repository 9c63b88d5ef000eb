
namespace Schemata.Text

/-- The value of a digit, whose letters may be of either case; `none` if the base has no such
digit. -/
def digit? (base : Nat) (c : Char) : Option Nat :=
  let value :=
    if c.isDigit then c.toNat - '0'.toNat
    else if 'a' ≤ c && c ≤ 'f' then c.toNat - 'a'.toNat + 10
    else if 'A' ≤ c && c ≤ 'F' then c.toNat - 'A'.toNat + 10
    else 16
  if value < base then some value else none

def numberIn (base : Nat) (digits : List Char) : Nat :=
  digits.foldl (fun number c => number * base + (digit? base c).getD 0) 0

/-- The digits of the base at the front of a text, and the rest. -/
def spanDigits (base : Nat) (text : List Char) : List Char × List Char :=
  (text.takeWhile fun c => (digit? base c).isSome, text.dropWhile fun c => (digit? base c).isSome)

/-- The digits of a number, letters in lower case. -/
def digitsOf (base n : Nat) : List Char := Nat.toDigits base n

/-- The digits of a number with zeros in front up to a width. -/
def padded (base width n : Nat) : List Char :=
  let digits := digitsOf base n
  List.replicate (width - digits.length) '0' ++ digits

end Schemata.Text
