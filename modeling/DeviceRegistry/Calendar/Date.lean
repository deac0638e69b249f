/-! Days of the calendar in which every fourth year is a leap year, except those full hundreds that
are not also full four hundreds. The calendar is used for all years from 1 to 9999. -/
namespace DeviceRegistry.Calendar

def isLeapYear (year : Int) : Bool :=
  year % 4 == 0 && (year % 100 != 0 || year % 400 == 0)

/-- The number of days of a month. A number that is no month has none. -/
def daysInMonth (year month : Int) : Int :=
  if month = 2 then (if isLeapYear year then 29 else 28)
  else if month = 4 ∨ month = 6 ∨ month = 9 ∨ month = 11 then 30
  else if 1 ≤ month ∧ month ≤ 12 then 31
  else 0

def daysOfMonths (year : Int) : Nat → Int
  | 0 => 0
  | count + 1 => daysOfMonths year count + daysInMonth year (Int.ofNat count + 1)

def daysBeforeMonth (year month : Int) : Int := daysOfMonths year (month - 1).toNat

/-- The number of days before a year, from the start of year 1. -/
def daysBeforeYear (year : Int) : Int :=
  let past := year - 1
  past * 365 + past / 4 - past / 100 + past / 400

structure Date where
  year : Int
  month : Int
  day : Int
deriving DecidableEq, Repr

namespace Date

def isValid (date : Date) : Bool :=
  1 ≤ date.year && date.year ≤ 9999 && 1 ≤ date.month && date.month ≤ 12 &&
    1 ≤ date.day && date.day ≤ daysInMonth date.year date.month

/-- The number of a day, where the first day of year 1 has number one. -/
def number (date : Date) : Int :=
  daysBeforeYear date.year + daysBeforeMonth date.year date.month + date.day

end Date

def lastDay : Int := (Date.mk 9999 12 31).number

/-- The number of the day from which instants are counted. -/
def epochDay : Int := (Date.mk 1970 1 1).number

/-- The days since the last Monday. The first day of year 1 is a Monday. -/
def daysSinceMonday (dayNumber : Int) : Int := (dayNumber + 6) % 7

/-- The number of the Monday of the first week of a year. That week holds the fourth of January. -/
def firstMonday (year : Int) : Int :=
  let fourth := (Date.mk year 1 4).number
  fourth - daysSinceMonday fourth

end DeviceRegistry.Calendar
