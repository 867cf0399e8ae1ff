/-!
# Calendar — the date and time of day of a moment

A moment is a number of seconds since 1970-01-01 00:00:00 in universal time.  Dates are those of
the Gregorian calendar, carried on in both directions, with a year zero.
-/
namespace EtcdKit

structure Calendar where
  year : Int
  month : Nat
  day : Nat
  hour : Nat
  minute : Nat
  second : Nat
  deriving DecidableEq, Repr

namespace Calendar

def isLeapYear (year : Nat) : Bool := year % 4 == 0 && (year % 100 != 0 || year % 400 == 0)

def daysInMonth (year month : Nat) : Nat :=
  if month = 2 then if isLeapYear year then 29 else 28
  else if month = 4 ∨ month = 6 ∨ month = 9 ∨ month = 11 then 30
  else 31

def daySeconds : Int := 86400

/-- Year, month and day of a day counted from 1970-01-01.

Counting from 0000-03-01 puts the leap day at the end of its year: 400 years are 146097 days, and
the months from March on follow the pattern 31, 30, 31, 30, 31 of 153 days. -/
def dateOfDay (day : Int) : Int × Nat × Nat :=
  let shifted := day + 719468
  let era := shifted.fdiv 146097
  let dayOfEra := (shifted - era * 146097).toNat
  let yearOfEra := (dayOfEra - dayOfEra / 1460 + dayOfEra / 36524 - dayOfEra / 146096) / 365
  let dayOfYear := dayOfEra - (365 * yearOfEra + yearOfEra / 4 - yearOfEra / 100)
  let march := (5 * dayOfYear + 2) / 153
  let month := if march < 10 then march + 3 else march - 9
  let year := era * 400 + yearOfEra + (if month ≤ 2 then 1 else 0)
  (year, month, dayOfYear - (153 * march + 2) / 5 + 1)

def ofSeconds (seconds : Int) : Calendar :=
  let day := seconds.fdiv daySeconds
  let rest := (seconds - day * daySeconds).toNat
  let (year, month, dayOfMonth) := dateOfDay day
  ⟨year, month, dayOfMonth, rest / 3600, rest / 60 % 60, rest % 60⟩

def zeroPad (width n : Nat) : String :=
  let digits := toString n
  String.ofList (List.replicate (width - digits.length) '0') ++ digits

/-- A year has at least four digits; one past 9999 carries a plus sign, one before 0 a minus. -/
def yearText (year : Int) : String :=
  if year < 0 then "-" ++ zeroPad 4 year.natAbs
  else if 9999 < year then "+" ++ zeroPad 4 year.toNat
  else zeroPad 4 year.toNat

/-- The written form, as in 2017-01-02 03:04:05. -/
def text (c : Calendar) : String :=
  yearText c.year ++ "-" ++ zeroPad 2 c.month ++ "-" ++ zeroPad 2 c.day ++ " " ++
    zeroPad 2 c.hour ++ ":" ++ zeroPad 2 c.minute ++ ":" ++ zeroPad 2 c.second

end Calendar
end EtcdKit
