import Schemata.Decimal.Binary

/-!
The shortest decimal of a float: of the decimals that no other float is closer to, one with the
fewest digits, and of those the closest. Everything is compared in whole numbers.
-/

namespace Schemata.Decimal

/-- The number `coefficient * 10 ^ exponent`. -/
structure Scaled where
  coefficient : Nat
  exponent : Int
  deriving Repr, DecidableEq

/-- A grid of decimals, the multiples of `10 ^ exponent`, laid beside a float and the two ends of
the stretch that rounds to it. All four are in the same unit, so they compare as whole numbers. -/
structure Grid where
  step : Nat
  value : Nat
  low : Nat
  high : Nat
  /-- Both ends round to the float as well. -/
  closed : Bool

namespace Grid

/-- The grid of the multiples of `10 ^ exponent` beside the float. Quarters of the gap to the next
float above are whole in the unit chosen. -/
def beside (x : Binary) (exponent : Int) : Grid :=
  let unit := Nat.pow 2 (x.exponent - 2).toNat * Nat.pow 10 (-exponent).toNat
  { step := Nat.pow 10 exponent.toNat * Nat.pow 2 (2 - x.exponent).toNat
    value := 4 * x.significand * unit
    low := (4 * x.significand - if x.closerBelow then 1 else 2) * unit
    high := (4 * x.significand + 2) * unit
    closed := x.significand % 2 == 0 }

/-- Whether a multiple of the step rounds to the float. -/
def reads (grid : Grid) (multiple : Nat) : Bool :=
  let point := multiple * grid.step
  if grid.closed then decide (grid.low ≤ point) && decide (point ≤ grid.high)
  else decide (grid.low < point) && decide (point < grid.high)

/-- The multiple below the float or at it. -/
def below (grid : Grid) : Nat := grid.value / grid.step

/-- Of the two multiples next to the float, the one that rounds to it; of two such the closer, and
at equal distance the even one. -/
def nearest? (grid : Grid) : Option Nat :=
  let down := grid.below
  let up := down + 1
  match grid.reads down, grid.reads up with
  | true, true =>
    let left := grid.value - down * grid.step
    let right := up * grid.step - grid.value
    some (if left < right then down else if right < left then up
      else if down % 2 = 0 then down else up)
  | true, false => some down
  | false, true => some up
  | false, false => none

end Grid

/-- Whether `10 ^ exponent` is at most the float. -/
def powerFits (x : Binary) (exponent : Int) : Bool :=
  let grid := Grid.beside x exponent
  decide (grid.step ≤ grid.value)

/-- The greatest exponent of ten whose power is at most the float. The estimate by the binary
logarithm is off by one at most. -/
def leadingExponent (x : Binary) : Int :=
  let estimate := ((x.significand.log2 : Int) + x.exponent) * 30103 / 100000
  if powerFits x (estimate + 1) then estimate + 1
  else if powerFits x estimate then estimate
  else estimate - 1

/-- The same number without zeros at the end of its coefficient; as many steps as it has digits are
enough. -/
def dropZeros : (budget : Nat) → Nat → Int → Scaled
  | 0, coefficient, exponent => ⟨coefficient, exponent⟩
  | budget + 1, coefficient, exponent =>
    if coefficient % 10 = 0 then dropZeros budget (coefficient / 10) (exponent + 1)
    else ⟨coefficient, exponent⟩

/-- The shortest decimal of a float above zero. Seventeen digits always suffice. -/
def shortest (x : Binary) : Scaled :=
  let leading := leadingExponent x
  let found := (List.range 17).findSome? fun (more : Nat) =>
    let exponent := leading - more
    ((Grid.beside x exponent).nearest?).map (·, exponent)
  let (coefficient, exponent) := found.getD ((Grid.beside x (leading - 16)).below, leading - 16)
  dropZeros 18 coefficient exponent

end Schemata.Decimal
