import Schemata.Text.Digits

namespace Schemata.Decimal

open Schemata.Text

/-- The float closest to `digits * 10 ^ exponent`. Decimals of 310 and more places before the point
are beyond all floats, and those whose first 325 places after it are zeros are closest to zero. -/
def closest (digits : List Char) (exponent : Int) : Float :=
  let digits := digits.dropWhile (· == '0')
  let places := exponent + digits.length
  if digits.isEmpty || places < -325 then 0
  else if 310 < places then 1 / 0
  else Float.ofScientific (numberIn 10 digits) (decide (exponent < 0)) exponent.natAbs

/-- The exponent that ends a decimal, with its sign; zero where none is written. -/
def exponent? : List Char → Option Int
  | [] => some 0
  | mark :: rest =>
    if mark != 'e' && mark != 'E' then none
    else
      let (negative, rest) := match rest with
        | '+' :: rest => (false, rest)
        | '-' :: rest => (true, rest)
        | _ => (false, rest)
      let (digits, rest) := spanDigits 10 rest
      if digits.isEmpty || !rest.isEmpty then none
      else some (if negative then -(numberIn 10 digits : Int) else numberIn 10 digits)

/-- A decimal without sign: digits with at most one point among them, of which at least one stands,
and perhaps an exponent. -/
def decimal? (text : List Char) : Option Float := do
  let (whole, rest) := spanDigits 10 text
  let (fraction, rest) := match rest with
    | '.' :: rest => spanDigits 10 rest
    | _ => ([], rest)
  if whole.isEmpty && fraction.isEmpty then none
  else
    let exponent ← exponent? rest
    return closest (whole ++ fraction) (exponent - fraction.length)

/-- A float's magnitude: a decimal, or one of the names of infinity and NaN in any case. -/
def magnitude? (text : List Char) : Option Float :=
  let name := text.map Char.toLower
  if name = "inf".toList || name = "infinity".toList then some (1 / 0)
  else if name = "nan".toList then some (0 / 0)
  else decimal? text

def readFloat? : List Char → Option Float
  | '-' :: rest => (magnitude? rest).map Float.neg
  | '+' :: rest => magnitude? rest
  | text => magnitude? text

end Schemata.Decimal
