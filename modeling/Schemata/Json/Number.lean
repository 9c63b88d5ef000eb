import Schemata.Json
import Schemata.Text.Digits

/-!
Reading JSON numbers. Integers of 64 bits are read exactly. Everything else becomes a float: the
digits that fit in 64 bits, then one multiplication or division by a power of ten.
-/

namespace Schemata.JsonNumber

open Schemata.Text

/-- The greatest integer that is read exactly. -/
def naturalLimit : Nat := 18446744073709551615

/-- The greatest exponent that is read as a number. -/
def exponentLimit : Nat := 2147483647

/-- The greatest exponent of a power of ten among floats. -/
def powerLimit : Nat := 308

/-- Digits from the front of a text as long as the number stays within the limit: the number, how
many digits it took, and the rest. -/
def gather (number taken : Nat) : List Char → Nat × Nat × List Char
  | [] => (number, taken, [])
  | c :: rest =>
    let next := number * 10 + (c.toNat - '0'.toNat)
    if c.isDigit && next ≤ naturalLimit then gather next (taken + 1) rest
    else (number, taken, c :: rest)

def power (exponent : Nat) : Float := Float.ofScientific 1 false exponent

/-- The float scaled by a power of ten; `none` where that leaves the floats. Exponents beyond the
powers of ten are taken in steps. -/
def scaled? : (steps : Nat) → Float → Int → Option Float
  | 0, x, _ => some x
  | steps + 1, x, exponent =>
    if exponent.natAbs ≤ powerLimit then
      if 0 ≤ exponent then
        let y := x * power exponent.toNat
        if y.isInf then none else some y
      else some (x / power exponent.natAbs)
    else if x == 0 then some x
    else if 0 ≤ exponent then none
    else scaled? steps (x / power powerLimit) (exponent + powerLimit)

/-- The number of a sign, the digits read and an exponent. -/
def ofParts? (negative : Bool) (digits : Nat) (exponent : Int) : Option JsonNumber := do
  let x ← scaled? (exponent.natAbs / powerLimit + 1) (.ofNat digits) exponent
  ofFloat? (if negative then -x else x)

/-- An integer without fraction and exponent. Minus zero and what is below the signed integers are
floats. -/
def ofInteger? (negative : Bool) (digits : Nat) : Option JsonNumber :=
  if !negative then some (natural digits.toUInt64)
  else if 0 < digits ∧ Int64.minValue.toInt ≤ -digits then
    let n := Int64.ofInt (-digits)
    if below : n < 0 then some (JsonNumber.negative n below) else none
  else ofFloat? (-.ofNat digits)

/-- Reads an exponent after its mark and makes the number; `before` is the exponent that the digits
already have. An exponent beyond the limit leaves zero, or nothing. -/
def readExponent? (negative : Bool) (digits : Nat) (before : Int) (text : List Char) :
    Option (JsonNumber × List Char) := do
  let (below, text) := match text with
    | '+' :: rest => (false, rest)
    | '-' :: rest => (true, rest)
    | _ => (false, text)
  let (read, rest) := spanDigits 10 text
  if read.isEmpty then none
  else
    let exponent := numberIn 10 read
    if exponentLimit < exponent then
      if digits != 0 && !below then none
      else return (← ofFloat? (if negative then -0.0 else 0.0), rest)
    else
      let total := if below then before - exponent else before + exponent
      return (← ofParts? negative digits total, rest)

/-- Makes the number of the digits read so far, with the exponent that may follow. -/
def finish? (negative : Bool) (digits : Nat) (exponent : Int) (text : List Char) :
    Option (JsonNumber × List Char) :=
  match text with
  | 'e' :: rest => readExponent? negative digits exponent rest
  | 'E' :: rest => readExponent? negative digits exponent rest
  | _ => (ofParts? negative digits exponent).map (·, text)

/-- Reads a fraction after its point. Digits that do not fit any more are passed over. -/
def readFraction? (negative : Bool) (digits : Nat) (exponent : Int) (text : List Char) :
    Option (JsonNumber × List Char) :=
  let (digits, taken, rest) := gather digits 0 text
  let (dropped, rest) := spanDigits 10 rest
  if taken = 0 && dropped.isEmpty then none
  else finish? negative digits (exponent - taken) rest

/-- Reads a number after its sign. A zero in front stands alone. -/
def read? (negative : Bool) (text : List Char) : Option (JsonNumber × List Char) :=
  match text with
  | '0' :: c :: _ => if c.isDigit then none else readOn text
  | c :: _ => if c.isDigit then readOn text else none
  | [] => none
where
  readOn (text : List Char) : Option (JsonNumber × List Char) :=
    let (digits, _, rest) := gather 0 0 text
    let (dropped, rest) := spanDigits 10 rest
    match rest with
    | '.' :: rest => readFraction? negative digits dropped.length rest
    | 'e' :: _ => finish? negative digits dropped.length rest
    | 'E' :: _ => finish? negative digits dropped.length rest
    | _ =>
      if dropped.isEmpty then (ofInteger? negative digits).map (·, rest)
      else finish? negative digits dropped.length rest

end Schemata.JsonNumber
