import Schemata.DateTime
import Schemata.Text.Digits

namespace Schemata

open Schemata.Text

/-- The digits after the point in threes; nothing for a whole second. -/
def fractionText (nanosecond : Nat) : List Char :=
  if nanosecond = 0 then []
  else if nanosecond % 1000000 = 0 then '.' :: padded 10 3 (nanosecond / 1000000)
  else if nanosecond % 1000 = 0 then '.' :: padded 10 6 (nanosecond / 1000)
  else '.' :: padded 10 9 nanosecond

def Date.text (date : Date) : List Char :=
  padded 10 4 date.year ++ '-' :: padded 10 2 date.month ++ '-' :: padded 10 2 date.day

/-- Hour, minute, second and fraction; a leap second is second 60. -/
def TimeOfDay.text (time : TimeOfDay) : List Char :=
  padded 10 2 time.hour ++ ':' :: padded 10 2 time.minute ++ ':' ::
    padded 10 2 (time.second + time.nanosecond / 1000000000) ++
    fractionText (time.nanosecond % 1000000000)

/-- Hours and minutes with a sign, which is a plus for no offset. -/
def offsetText (offset : Int) : List Char :=
  (if offset < 0 then '-' else '+') :: padded 10 2 (offset.natAbs / 60) ++
    ':' :: padded 10 2 (offset.natAbs % 60)

def DateTime.text (moment : DateTime) : List Char :=
  moment.date.text ++ 'T' :: moment.time.text ++ offsetText moment.offset

end Schemata
