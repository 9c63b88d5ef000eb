import Schemata.DateTime.Printer
import Schemata.DateTime.Reader
import Schemata.Proofs.DigitText

namespace Schemata

open Schemata.Text

theorem Date.month_le (date : Date) : date.month ≤ 12 := by
  have some : 0 < daysInMonth date.year date.month := Nat.lt_of_lt_of_le date.day_pos date.day_le
  unfold daysInMonth at some
  split at some <;> omega

theorem Date.day_lt (date : Date) : date.day < 100 := by
  have most := date.day_le
  unfold daysInMonth at most
  split at most
  · split at most <;> omega
  all_goals omega

theorem TimeOfDay.shownSecond_lt (time : TimeOfDay) :
    time.second + time.nanosecond / 1000000000 < 10 ^ 2 := by
  have := time.second_lt
  have bound := time.nanosecond_lt
  split at bound <;> omega

namespace DateTime

theorem digits_padded {count n : Nat} (wide : 0 < count) (small : n < 10 ^ count)
    (rest : List Char) : digits count (padded 10 count n ++ rest) = .ok (n, rest) := by
  have size := length_padded wide small
  have all : (padded 10 count n).all Char.isDigit = true :=
    List.all_eq_true.mpr fun _ => isDigit_of_mem_padded
  rw [digits, List.take_left' size, List.drop_left' size, size, all, numberIn_padded]
  simp

theorem oneOf_cons {allowed : List Char} {c : Char} (member : allowed.contains c = true)
    (rest : List Char) : oneOf allowed (c :: rest) = .ok rest := by
  rw [oneOf, if_pos member]

theorem readDate_text (date : Date) (rest : List Char) :
    readDate (date.text ++ rest) = .ok (date, rest) := by
  have month : date.month < 10 ^ 2 := Nat.lt_of_le_of_lt date.month_le (by decide)
  have possible : date.year < 10000 ∧ 0 < date.day ∧ date.day ≤ daysInMonth date.year date.month :=
    ⟨date.year_lt, date.day_pos, date.day_le⟩
  simp only [Date.text, readDate, List.append_assoc, List.cons_append, bind, Except.bind,
    digits_padded (show 0 < 4 by decide) date.year_lt,
    oneOf_cons (show ['-'].contains '-' = true from rfl),
    digits_padded (show 0 < 2 by decide) month, digits_padded (show 0 < 2 by decide) date.day_lt,
    dif_pos possible]
  rfl

/-- No digit begins the text of an offset. -/
theorem ends_offsetText (offset : Int) : Ends 10 (offsetText offset) := by
  rw [offsetText]
  split
  · exact ends_cons rfl
  · exact ends_cons rfl

theorem readFraction_digits {width n : Nat} (wide : 0 < width) (most : width ≤ 9)
    (small : n < 10 ^ width) {rest : List Char} (ends : Ends 10 rest) :
    readFraction ('.' :: padded 10 width n ++ rest) = .ok (n * 10 ^ (9 - width), rest) := by
  have size := length_padded wide small
  have span : spanDigits 10 (padded 10 width n ++ rest) = (padded 10 width n, rest) :=
    spanDigits_digits (fun _ => isSome_digit?_of_mem_padded) ends
  have nonempty : padded 10 width n ≠ [] := by
    rw [← List.length_pos_iff, size]
    exact wide
  have filled := List.isEmpty_eq_false_iff.mpr nonempty
  have more := List.isEmpty_eq_false_iff.mpr (List.append_ne_nil_of_left_ne_nil nonempty rest)
  have kept : (padded 10 width n).take 9 = padded 10 width n :=
    List.take_of_length_le (Nat.le_trans (Nat.le_of_eq size) most)
  have value : numberIn 10 (padded 10 width n ++ List.replicate (9 - width) '0') =
      n * 10 ^ (9 - width) := by rw [numberIn_append_zeros, numberIn_padded]
  simp only [List.cons_append, readFraction, more, span, filled, kept, size, value,
    Bool.false_eq_true, ↓reduceIte]
  rfl

theorem readFraction_text {nanosecond : Nat} (small : nanosecond < 1000000000) (offset : Int) :
    readFraction (fractionText nanosecond ++ offsetText offset) =
      .ok (nanosecond, offsetText offset) := by
  have ends := ends_offsetText offset
  unfold fractionText
  split
  · next zero =>
    subst zero
    rw [List.nil_append, offsetText]
    split <;> rfl
  · split
    · next millis =>
      have same : nanosecond / 1000000 * 10 ^ (9 - 3) = nanosecond := by omega
      rw [readFraction_digits (by decide) (by decide) (by omega) ends, same]
    · split
      · next micros =>
        have same : nanosecond / 1000 * 10 ^ (9 - 6) = nanosecond := by omega
        rw [readFraction_digits (by decide) (by decide) (by omega) ends, same]
      · rw [readFraction_digits (by decide) (by decide) small ends, Nat.sub_self, Nat.pow_zero,
          Nat.mul_one]

/-- Second 60 is a leap second. -/
theorem timeOfDay_text (time : TimeOfDay) :
    timeOfDay time.hour time.minute (time.second + time.nanosecond / 1000000000)
      (time.nanosecond % 1000000000) = .ok time := by
  have possible : time.hour < 24 ∧ time.minute < 60 ∧ time.second < 60 ∧
      time.nanosecond < (if time.second = 59 then 2000000000 else 1000000000) :=
    ⟨time.hour_lt, time.minute_lt, time.second_lt, time.nanosecond_lt⟩
  have bound := time.nanosecond_lt
  have parts : (if time.second + time.nanosecond / 1000000000 = 60
      then (59, time.nanosecond % 1000000000 + 1000000000)
      else (time.second + time.nanosecond / 1000000000, time.nanosecond % 1000000000)) =
      (time.second, time.nanosecond) := by
    have := time.second_lt
    split at bound
    · split
      · exact Prod.ext (by omega) (by omega)
      · exact Prod.ext (by omega) (by omega)
    · rw [if_neg (by omega)]
      exact Prod.ext (by omega) (by omega)
  rw [timeOfDay, parts]
  exact dif_pos possible

theorem readTime_text (time : TimeOfDay) (offset : Int) :
    readTime (time.text ++ offsetText offset) = .ok (time, offsetText offset) := by
  have hour : time.hour < 10 ^ 2 := Nat.lt_trans time.hour_lt (by decide)
  have minute : time.minute < 10 ^ 2 := Nat.lt_trans time.minute_lt (by decide)
  have second := time.shownSecond_lt
  simp only [TimeOfDay.text, readTime, List.append_assoc, List.cons_append, bind, Except.bind,
    digits_padded (show 0 < 2 by decide) hour, oneOf_cons (show [':'].contains ':' = true from rfl),
    digits_padded (show 0 < 2 by decide) minute, digits_padded (show 0 < 2 by decide) second,
    readFraction_text (Nat.mod_lt _ (by decide)) offset, timeOfDay_text]
  rfl

theorem length_le_byteLength (text : List Char) : text.length ≤ byteLength text := by
  induction text with
  | nil => exact Nat.le_refl _
  | cons c rest ih =>
    have := c.utf8Size_pos
    rw [byteLength, List.foldr_cons, ← byteLength, List.length_cons]
    omega

theorem offsetDigits_padded {n : Nat} (small : n < 10 ^ 2) (rest : List Char) :
    offsetDigits (padded 10 2 n ++ rest) = .ok (n, rest) := by
  have size := length_padded (show 0 < 2 by decide) small
  have long := length_le_byteLength (padded 10 2 n ++ rest)
  rw [List.length_append, size] at long
  rw [offsetDigits, if_neg (by omega), digits_padded (by decide) small]

theorem readHoursMinutes_text {hours minutes : Nat} (few : hours < 10 ^ 2) (under : minutes < 60) :
    readHoursMinutes (padded 10 2 hours ++ ':' :: padded 10 2 minutes) =
      .ok (hours, minutes, []) := by
  have last := offsetDigits_padded (Nat.lt_trans under (by decide)) []
  rw [List.append_nil] at last
  simp only [readHoursMinutes, bind, Except.bind, offsetDigits_padded few, List.isEmpty_cons,
    oneOf_cons (show [':'].contains ':' = true from rfl), last, Bool.false_eq_true, ↓reduceIte,
    if_neg (Nat.not_lt.mpr (Nat.lt_succ_iff.mp under))]
  rfl

/-- A sign and what the text after it denotes. -/
theorem readOffset_cons {sign : Char} {negative : Bool} {hours minutes : Nat} {text : List Char}
    (numeric : (sign = '+' ∧ negative = false) ∨ (sign = '-' ∧ negative = true))
    (read : readHoursMinutes text = .ok (hours, minutes, [])) {offset : Int}
    (value : (if negative then -((hours : Int) * 60 + minutes) else (hours : Int) * 60 + minutes) =
      offset) (small : offset.natAbs < 1440) :
    readOffset (sign :: text) = .ok ⟨offset, small⟩ := by
  subst value
  obtain ⟨rfl, rfl⟩ | ⟨rfl, rfl⟩ := numeric
  · have zulu : (decide ('+' = 'Z') || decide ('+' = 'z')) = false := rfl
    rw [readOffset]
    simp only [zulu, read, Bool.false_eq_true, ↓reduceIte]
    exact dif_pos small
  · have zulu : (decide ('-' = 'Z') || decide ('-' = 'z')) = false := rfl
    rw [readOffset]
    simp only [zulu, read, Bool.false_eq_true, ↓reduceIte]
    exact dif_pos small

theorem readOffset_text {offset : Int} (small : offset.natAbs < 1440) :
    readOffset (offsetText offset) = .ok ⟨offset, small⟩ := by
  have read := readHoursMinutes_text (show offset.natAbs / 60 < 10 ^ 2 by omega)
    (Nat.mod_lt offset.natAbs (show 0 < 60 by decide))
  unfold offsetText
  split
  · next below => exact readOffset_cons (.inr ⟨rfl, rfl⟩) read (by rw [if_pos rfl]; omega) small
  · next above => exact readOffset_cons (.inl ⟨rfl, rfl⟩) read (by rw [if_neg nofun]; omega) small

theorem leastLength_le (moment : DateTime) : leastLength ≤ moment.text.length := by
  have year := length_padded (show 0 < 4 by decide) moment.date.year_lt
  have month := length_padded (show 0 < 2 by decide)
    (Nat.lt_of_le_of_lt moment.date.month_le (show 12 < 10 ^ 2 by decide))
  have day := length_padded (show 0 < 2 by decide) moment.date.day_lt
  have hour := length_padded (show 0 < 2 by decide)
    (Nat.lt_trans moment.time.hour_lt (show 24 < 10 ^ 2 by decide))
  have minute := length_padded (show 0 < 2 by decide)
    (Nat.lt_trans moment.time.minute_lt (show 60 < 10 ^ 2 by decide))
  have second := length_padded (show 0 < 2 by decide) moment.time.shownSecond_lt
  simp only [text, Date.text, TimeOfDay.text, List.length_append, List.length_cons, leastLength]
  omega

/-- The text of a date and time denotes it. -/
theorem ofText_text (moment : DateTime) : ofText moment.text = .ok moment := by
  have long := Nat.le_trans moment.leastLength_le (length_le_byteLength moment.text)
  have between : oneOf ['T', 't', ' '] ('T' :: (moment.time.text ++ offsetText moment.offset)) =
      .ok (moment.time.text ++ offsetText moment.offset) := oneOf_cons rfl _
  have parts : moment.text = moment.date.text ++
      'T' :: (moment.time.text ++ offsetText moment.offset) := by
    rw [text, List.append_assoc, List.cons_append]
  rw [ofText, if_neg (Nat.not_lt.mpr long), parts]
  simp only [bind, Except.bind, readDate_text, between, readTime_text,
    readOffset_text moment.offset_lt]
  rfl

end DateTime

end Schemata
