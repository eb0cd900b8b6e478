/-!
Points in time, in UTC and to the nanosecond, on the proleptic Gregorian calendar, in which year 0
and the years before it are years like others. A second number of 10⁹ nanoseconds and more is a leap
second: 23:59:60.5 is held as second 59 with 1 500 000 000 nanoseconds. The written form is RFC 3339
with the fewest fraction digits of 0, 3, 6 and 9 that are exact. Years 0 to 9999 have four digits;
all others carry their sign, as ISO 8601 asks.
-/
namespace TicketRouting

def isLeapYear (year : Int) : Bool := year % 4 == 0 && (year % 100 != 0 || year % 400 == 0)

def daysInMonth (year : Int) (month : Nat) : Nat :=
  match month with
  | 2 => if isLeapYear year then 29 else 28
  | 4 | 6 | 9 | 11 => 30
  | _ => 31

theorem one_le_days_in_month (year : Int) (month : Nat) : 1 ≤ daysInMonth year month := by
  unfold daysInMonth
  repeat' split
  all_goals omega

structure Date where
  year : Int
  month : Nat
  day : Nat
  month_valid : 1 ≤ month ∧ month ≤ 12
  day_valid : 1 ≤ day ∧ day ≤ daysInMonth year month
deriving DecidableEq

namespace Date

def of? (year : Int) (month day : Nat) : Option Date :=
  if m : 1 ≤ month ∧ month ≤ 12 then
    if d : 1 ≤ day ∧ day ≤ daysInMonth year month then some ⟨year, month, day, m, d⟩ else none
  else none

def next (date : Date) : Date :=
  if d : date.day < daysInMonth date.year date.month then
    { date with day := date.day + 1, day_valid := by omega }
  else if m : date.month < 12 then
    { year := date.year, month := date.month + 1, day := 1
      month_valid := by omega
      day_valid := ⟨Nat.le_refl 1, one_le_days_in_month _ _⟩ }
  else
    { year := date.year + 1, month := 1, day := 1
      month_valid := by omega
      day_valid := ⟨Nat.le_refl 1, one_le_days_in_month _ _⟩ }

def previous (date : Date) : Date :=
  if d : 1 < date.day then
    { date with day := date.day - 1, day_valid := by have := date.day_valid; omega }
  else if m : 1 < date.month then
    { year := date.year, month := date.month - 1, day := daysInMonth date.year (date.month - 1)
      month_valid := by have := date.month_valid; omega
      day_valid := ⟨one_le_days_in_month _ _, Nat.le_refl _⟩ }
  else
    { year := date.year - 1, month := 12, day := daysInMonth (date.year - 1) 12
      month_valid := by omega
      day_valid := ⟨one_le_days_in_month _ _, Nat.le_refl _⟩ }

def daysBeforeMonth (year : Int) : Nat → Nat
  | 0 => 0
  | 1 => 0
  | month + 1 => daysBeforeMonth year month + daysInMonth year month

/-- Days from the first day of year 1, which has number 1, to the date. -/
def dayNumber (date : Date) : Int :=
  let past := date.year - 1
  365 * past + past / 4 - past / 100 + past / 400 + daysBeforeMonth date.year date.month + date.day

end Date

example : (Date.of? 2024 2 29).map Date.next = Date.of? 2024 3 1 := by decide
example : (Date.of? 2024 1 1).map Date.previous = Date.of? 2023 12 31 := by decide
example : (Date.of? 1970 1 1).map Date.dayNumber = some 719163 := by decide

structure TimeOfDay where
  hour : Nat
  minute : Nat
  second : Nat
  nano : Nat
  hour_valid : hour < 24
  minute_valid : minute < 60
  second_valid : second < 60
  nano_valid : nano < 2000000000
deriving DecidableEq

namespace TimeOfDay

def secondOfDay (time : TimeOfDay) : Nat := time.hour * 3600 + time.minute * 60 + time.second

def isLeapSecond (time : TimeOfDay) : Bool := 1000000000 ≤ time.nano

/-- Seconds from one time to another on a clock that shows leap seconds: the one in progress
counts as soon as the other time lies in another second. -/
def secondsSince (later earlier : TimeOfDay) : Int :=
  let difference : Int := later.secondOfDay - earlier.secondOfDay
  if earlier.secondOfDay < later.secondOfDay && earlier.isLeapSecond then difference + 1
  else if later.secondOfDay < earlier.secondOfDay && later.isLeapSecond then difference - 1
  else difference

end TimeOfDay

structure Instant where
  date : Date
  time : TimeOfDay
deriving DecidableEq

namespace Instant

def nanosSince (later earlier : Instant) : Int :=
  ((later.date.dayNumber - earlier.date.dayNumber) * 86400
      + later.time.secondsSince earlier.time) * 1000000000
    + (later.time.nano - earlier.time.nano)

def fields (instant : Instant) : List Int :=
  [instant.date.year, instant.date.month, instant.date.day, instant.time.hour,
    instant.time.minute, instant.time.second, instant.time.nano]

def isBefore (left right : Instant) : Bool := left.fields < right.fields

end Instant

def digitChar (digit : Nat) : Char := Char.ofNat (48 + digit % 10)

def lastDigits : Nat → Nat → List Char
  | 0, _ => []
  | width + 1, number => lastDigits width (number / 10) ++ [digitChar number]

namespace Date

def yearText (year : Int) : List Char :=
  if 0 ≤ year ∧ year ≤ 9999 then lastDigits 4 year.toNat
  else
    let sign := if year < 0 then '-' else '+'
    let width := max 4 (Nat.toDigits 10 year.natAbs).length
    sign :: lastDigits width year.natAbs

def text (date : Date) : List Char :=
  yearText date.year ++ '-' :: lastDigits 2 date.month ++ '-' :: lastDigits 2 date.day

end Date

namespace TimeOfDay

def fractionText (nano : Nat) : List Char :=
  if nano = 0 then []
  else if nano % 1000000 = 0 then '.' :: lastDigits 3 (nano / 1000000)
  else if nano % 1000 = 0 then '.' :: lastDigits 6 (nano / 1000)
  else '.' :: lastDigits 9 nano

/-- A leap second is written as one second more than the clock otherwise has. -/
def text (time : TimeOfDay) : List Char :=
  let second := if time.isLeapSecond then time.second + 1 else time.second
  lastDigits 2 time.hour ++ ':' :: lastDigits 2 time.minute ++ ':' :: lastDigits 2 second ++
    fractionText (time.nano % 1000000000)

end TimeOfDay

namespace Instant

def textWith (zone : List Char) (instant : Instant) : List Char :=
  instant.date.text ++ 'T' :: instant.time.text ++ zone

def text (instant : Instant) : String := String.ofList (instant.textWith ['Z'])

/-- The form that a table column holds; columns are compared as texts. -/
def columnText (instant : Instant) : String :=
  String.ofList (instant.textWith ['+', '0', '0', ':', '0', '0'])

end Instant

end TicketRouting
