import Schemata.DateTime
import Schemata.Text.Digits

/-!
Reading a date and time. The text is read from left to right, and the first fault found is the
answer; lengths are counted in bytes of UTF-8.
-/

namespace Schemata

open Schemata.Text

inductive DateTimeFault where
  | premature
  | invalid
  | outOfRange
  | trailing
  deriving Repr, DecidableEq

def DateTimeFault.message : DateTimeFault → String
  | premature => "premature end of input"
  | invalid => "input contains invalid characters"
  | outOfRange => "input is out of range"
  | trailing => "trailing input"

namespace DateTime

def byteLength (text : List Char) : Nat := text.foldr (fun c length => c.utf8Size + length) 0

/-- Exactly so many digits. -/
def digits (count : Nat) (text : List Char) : Except DateTimeFault (Nat × List Char) :=
  let read := text.take count
  if read.length = count && read.all Char.isDigit then .ok (numberIn 10 read, text.drop count)
  else .error .invalid

def oneOf (allowed : List Char) : List Char → Except DateTimeFault (List Char)
  | c :: rest => if allowed.contains c then .ok rest else .error .invalid
  | [] => .error .invalid

def readDate (text : List Char) : Except DateTimeFault (Date × List Char) := do
  let (year, text) ← digits 4 text
  let text ← oneOf ['-'] text
  let (month, text) ← digits 2 text
  let text ← oneOf ['-'] text
  let (day, text) ← digits 2 text
  if possible : year < 10000 ∧ 0 < day ∧ day ≤ daysInMonth year month then
    return (⟨year, month, day, possible.1, possible.2.1, possible.2.2⟩, text)
  else .error .outOfRange

/-- Nanoseconds from the digits after a point, of which the first nine count. -/
def readFraction : List Char → Except DateTimeFault (Nat × List Char)
  | '.' :: text => do
    if text.isEmpty then .error .premature
    let (read, rest) := spanDigits 10 text
    if read.isEmpty then .error .invalid
    let kept := read.take 9
    return (numberIn 10 (kept ++ List.replicate (9 - kept.length) '0'), rest)
  | text => .ok (0, text)

/-- A time of day from its parts, second 60 being a leap second. -/
def timeOfDay (hour minute second nanosecond : Nat) : Except DateTimeFault TimeOfDay :=
  let (second, nanosecond) :=
    if second = 60 then (59, nanosecond + 1000000000) else (second, nanosecond)
  if possible : hour < 24 ∧ minute < 60 ∧ second < 60 ∧
      nanosecond < (if second = 59 then 2000000000 else 1000000000) then
    .ok ⟨hour, minute, second, nanosecond, possible.1, possible.2.1, possible.2.2.1,
      possible.2.2.2⟩
  else .error .outOfRange

/-- The time of day in front of a text. -/
def readTime (text : List Char) : Except DateTimeFault (TimeOfDay × List Char) := do
  let (hour, text) ← digits 2 text
  let text ← oneOf [':'] text
  let (minute, text) ← digits 2 text
  let text ← oneOf [':'] text
  let (second, text) ← digits 2 text
  let (nanosecond, text) ← readFraction text
  return (← timeOfDay hour minute second nanosecond, text)

/-- Two digits of an offset; fewer than two bytes are too few. -/
def offsetDigits (text : List Char) : Except DateTimeFault (Nat × List Char) :=
  if byteLength text < 2 then .error .premature else digits 2 text

/-- Hours and minutes of an offset, and the rest. -/
def readHoursMinutes (text : List Char) : Except DateTimeFault (Nat × Nat × List Char) := do
  let (hours, text) ← offsetDigits text
  if text.isEmpty then .error .premature
  let text ← oneOf [':'] text
  let (minutes, text) ← offsetDigits text
  if 59 < minutes then .error .outOfRange
  return (hours, minutes, text)

/-- The offset that ends a text, in minutes: `Z`, or hours and minutes with a sign, for which the
minus sign proper will do as well as the hyphen. -/
def readOffset (text : List Char) :
    Except DateTimeFault { offset : Int // offset.natAbs < 1440 } := do
  let (negative, hours, minutes, rest) ← match text with
    | [] => .error .premature
    | sign :: rest =>
      if sign = 'Z' || sign = 'z' then .ok (false, 0, 0, rest)
      else if sign = '+' || sign = '-' || sign = '\u2212' then
        (readHoursMinutes rest).map (sign != '+', ·)
      else .error .invalid
  if !rest.isEmpty then .error .trailing
  let distance : Int := hours * 60 + minutes
  let offset := if negative then -distance else distance
  if small : offset.natAbs < 1440 then return ⟨offset, small⟩ else .error .outOfRange

/-- The shortest text there is, without offset. -/
def leastLength : Nat := 19

def ofText (text : List Char) : Except DateTimeFault DateTime := do
  if byteLength text < leastLength then .error .premature
  let (date, text) ← readDate text
  let text ← oneOf ['T', 't', ' '] text
  let (time, text) ← readTime text
  let ⟨offset, offset_lt⟩ ← readOffset text
  return ⟨date, time, offset, offset_lt⟩

end DateTime

end Schemata
