
namespace Schemata.Decimal

/-- The number `significand * 2 ^ exponent`, below zero if `negative`. -/
structure Binary where
  negative : Bool
  significand : Nat
  exponent : Int
  deriving Repr, DecidableEq

namespace Binary

/-- The number of fractions that the bits of a float can tell apart: two to the power of 52. -/
def fractions : Nat := 4503599627370496

/-- The exact value of a float; NaN and the infinities have none. -/
def ofFloat? (x : Float) : Option Binary :=
  let bits := x.toBits.toNat
  let negative := bits / fractions / 2048 == 1
  let scale : Nat := bits / fractions % 2048
  let fraction : Nat := bits % fractions
  if scale = 2047 then none
  else if scale = 0 then some ⟨negative, fraction, -1074⟩
  else some ⟨negative, fractions + fraction, (scale : Int) - 1075⟩

def isWhole (x : Binary) : Bool :=
  decide (0 ≤ x.exponent) || x.significand % Nat.pow 2 (-x.exponent).toNat == 0

/-- Whether the floats next to this one are closer below than above: at a power of two, unless the
floats around it are as close as floats get. -/
def closerBelow (x : Binary) : Bool :=
  x.significand == fractions && decide (-1074 < x.exponent)

end Binary

end Schemata.Decimal
