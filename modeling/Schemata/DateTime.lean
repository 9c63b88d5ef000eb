/-!
Dates with a time of day and an offset from universal time. Two of them may show different digits
and be the same instant; instants decide equality and order.
-/

namespace Schemata

def isLeapYear (year : Nat) : Bool :=
  year % 4 == 0 && (year % 100 != 0 || year % 400 == 0)

/-- The number of days of a month, the first being 1; none for other numbers. -/
def daysInMonth (year month : Nat) : Nat :=
  match month with
  | 2 => if isLeapYear year then 29 else 28
  | 4 | 6 | 9 | 11 => 30
  | 1 | 3 | 5 | 7 | 8 | 10 | 12 => 31
  | _ => 0

/-- A day of the Gregorian calendar, carried on before its introduction, in a year of four
digits. -/
structure Date where
  year : Nat
  month : Nat
  day : Nat
  year_lt : year < 10000
  day_pos : 0 < day
  day_le : day ≤ daysInMonth year month
  deriving Repr, DecidableEq

/-- A time of day. A leap second is second 59 with a thousand million nanoseconds and more. -/
structure TimeOfDay where
  hour : Nat
  minute : Nat
  second : Nat
  nanosecond : Nat
  hour_lt : hour < 24
  minute_lt : minute < 60
  second_lt : second < 60
  nanosecond_lt : nanosecond < (if second = 59 then 2000000000 else 1000000000)
  deriving Repr, DecidableEq

/-- A date and time of day at a place whose clocks are `offset` minutes ahead of universal time. -/
structure DateTime where
  date : Date
  time : TimeOfDay
  offset : Int
  offset_lt : offset.natAbs < 1440
  deriving Repr, DecidableEq

/-- A point in time: seconds from the beginning of year 0, and nanoseconds, which are a thousand
million and more within a leap second. -/
structure Instant where
  second : Int
  nanosecond : Nat
  deriving Repr, DecidableEq

/-- The number of days from the beginning of year 0 to the beginning of a year. -/
def daysBeforeYear (year : Nat) : Nat :=
  365 * year + (year + 3) / 4 - (year + 99) / 100 + (year + 399) / 400

/-- The number of days of a year before one of its months. -/
def daysBeforeMonth (year : Nat) : (month : Nat) → Nat
  | 0 => 0
  | month + 1 => daysBeforeMonth year month + daysInMonth year month

/-- The number of days from the beginning of year 0 to a date. -/
def Date.dayNumber (date : Date) : Nat :=
  daysBeforeYear date.year + daysBeforeMonth date.year date.month + (date.day - 1)

/-- The number of whole seconds of the day before a time. -/
def TimeOfDay.secondOfDay (time : TimeOfDay) : Nat :=
  time.hour * 3600 + time.minute * 60 + time.second

/-- Earlier instants come first; within a second the nanoseconds decide. -/
def Instant.compare (left right : Instant) : Ordering :=
  (Ord.compare left.second right.second).then (Ord.compare left.nanosecond right.nanosecond)

namespace DateTime

def instant (moment : DateTime) : Instant :=
  ⟨(moment.date.dayNumber * 86400 + moment.time.secondOfDay : Nat) - moment.offset * 60,
    moment.time.nanosecond⟩

def compare (left right : DateTime) : Ordering := left.instant.compare right.instant

def same (left right : DateTime) : Bool := left.instant == right.instant

end DateTime

end Schemata
