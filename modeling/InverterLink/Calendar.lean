/-!
# The calendar

Dates of the Gregorian calendar: which years are leap years, how long the months are, and which
triples of numbers are dates.
-/

namespace InverterLink.Calendar

/-- Every fourth year is a leap year, except the centuries that 400 does not divide. -/
def isLeapYear (year : Nat) : Bool :=
  year % 4 = 0 && (year % 100 ≠ 0 || year % 400 = 0)

/-- The number of days of a month, or zero if there is no such month. -/
def daysInMonth (year month : Nat) : Nat :=
  match month with
  | 1 | 3 | 5 | 7 | 8 | 10 | 12 => 31
  | 4 | 6 | 9 | 11 => 30
  | 2 => if isLeapYear year then 29 else 28
  | _ => 0

/-- Whether the three numbers are a date. -/
def isDate (year month day : Nat) : Bool :=
  1 ≤ day && day ≤ daysInMonth year month

end InverterLink.Calendar
