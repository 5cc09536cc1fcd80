namespace AnnotatedMake

structure CalendarDate where
  year : Nat
  month : Nat
  day : Nat
deriving DecidableEq, Repr

structure ClockTime where
  hour : Nat
  minute : Nat
  second : Nat
  microsecond : Nat
deriving DecidableEq, Repr

/-- The difference to universal time, in minutes. -/
structure ClockOffset where
  negative : Bool
  minutes : Nat
deriving DecidableEq, Repr

namespace Moment

/-- A number in decimal with zeros in front up to a width. -/
def padded (width value : Nat) : String :=
  let digits := toString value
  String.ofList (List.replicate (width - digits.length) '0') ++ digits

end Moment

open Moment

def CalendarDate.text (date : CalendarDate) : String :=
  padded 4 date.year ++ "-" ++ padded 2 date.month ++ "-" ++ padded 2 date.day

/-- Microseconds are written in six digits, and only when there are any. -/
def ClockTime.text (time : ClockTime) : String :=
  padded 2 time.hour ++ ":" ++ padded 2 time.minute ++ ":" ++ padded 2 time.second ++
    if time.microsecond = 0 then "" else "." ++ padded 6 time.microsecond

def ClockOffset.text (offset : ClockOffset) : String :=
  (if offset.negative && offset.minutes ≠ 0 then "-" else "+") ++
    padded 2 (offset.minutes / 60) ++ ":" ++ padded 2 (offset.minutes % 60)

def isLeapYear (year : Nat) : Bool := year % 4 = 0 && (year % 100 ≠ 0 || year % 400 = 0)

def daysInMonth (year month : Nat) : Nat :=
  if month = 2 then (if isLeapYear year then 29 else 28)
  else if month = 4 || month = 6 || month = 9 || month = 11 then 30
  else 31

/-- Whether a date is in the calendar, which begins with the year one. -/
def CalendarDate.isValid (date : CalendarDate) : Bool :=
  1 ≤ date.year && 1 ≤ date.month && date.month ≤ 12 && 1 ≤ date.day &&
    date.day ≤ daysInMonth date.year date.month

end AnnotatedMake
