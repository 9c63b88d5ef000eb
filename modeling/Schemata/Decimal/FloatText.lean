import Schemata.Decimal.Shortest
import Schemata.Text.Digits

namespace Schemata.Decimal

open Schemata.Text

/-- Decimals are written positionally while the exponent of their first digit lies between
these. -/
structure FloatLayout where
  lowest : Int
  highest : Int

/-- From a hundred thousandth up to below ten quadrillions floats are written positionally. -/
def floatLayout : FloatLayout := ⟨-5, 15⟩

/-- A decimal above zero in positional form, with a fraction of at least one digit. -/
def positional (digits : List Char) (leading : Int) : List Char :=
  if leading < 0 then
    '0' :: '.' :: (List.replicate (-leading - 1).toNat '0' ++ digits)
  else
    let whole := leading.toNat + 1
    let fraction := digits.drop whole
    (digits ++ List.replicate (whole - digits.length) '0').take whole ++
      '.' :: if fraction.isEmpty then ['0'] else fraction

/-- A decimal above zero with one digit before the point and an exponent that has its sign. -/
def exponential (digits : List Char) (leading : Int) : List Char :=
  let fraction := digits.drop 1
  digits.take 1 ++ (if fraction.isEmpty then [] else '.' :: fraction) ++
    'e' :: (if leading < 0 then '-' else '+') :: digitsOf 10 leading.natAbs

/-- A decimal above zero in the form that the layout asks for. -/
def Scaled.text (layout : FloatLayout) (x : Scaled) : List Char :=
  let digits := digitsOf 10 x.coefficient
  let leading := x.exponent + digits.length - 1
  if layout.lowest ≤ leading ∧ leading ≤ layout.highest then positional digits leading
  else exponential digits leading

/-- The text of a finite float; `none` for NaN and the infinities. -/
def finiteText? (x : Float) : Option String :=
  (Binary.ofFloat? x).map fun exact =>
    let magnitude :=
      if exact.significand = 0 then ['0', '.', '0'] else (shortest exact).text floatLayout
    String.ofList (if exact.negative then '-' :: magnitude else magnitude)

def floatText (x : Float) : String :=
  (finiteText? x).getD (if x.isNaN then "NaN" else if x < 0 then "-inf" else "inf")

end Schemata.Decimal
