/- module: DddBoilerplate/Domain/Calendar
   generality: G
   digest: Dates of the civil calendar as numbers of days and of milliseconds, and as texts. -/

import DddBoilerplate.Domain.Text

set_option autoImplicit false
set_option relaxedAutoImplicit false
set_option linter.all false

namespace DddBoilerplate.Calendar

/-- The year, month and day that lie `days` days after the first of January 1970. -/
def civilDate (days : Nat) : Nat × Nat × Nat :=
  let shifted := days + 719468
  let era := shifted / 146097
  let dayOfEra := shifted % 146097
  let yearOfEra := (dayOfEra - dayOfEra / 1460 + dayOfEra / 36524 - dayOfEra / 146096) / 365
  let dayOfYear := dayOfEra - (365 * yearOfEra + yearOfEra / 4 - yearOfEra / 100)
  let monthFromMarch := (5 * dayOfYear + 2) / 153
  let day := dayOfYear - (153 * monthFromMarch + 2) / 5 + 1
  let month := if monthFromMarch < 10 then monthFromMarch + 3 else monthFromMarch - 9
  (yearOfEra + era * 400 + (if month ≤ 2 then 1 else 0), month, day)

/-- The number of days from the first of January 1970 to a date. -/
def dayNumber (year month day : Nat) : Nat :=
  let shiftedYear := if month ≤ 2 then year - 1 else year
  let era := shiftedYear / 400
  let yearOfEra := shiftedYear % 400
  let monthFromMarch := if 2 < month then month - 3 else month + 9
  let dayOfYear := (153 * monthFromMarch + 2) / 5 + day - 1
  era * 146097 + (yearOfEra * 365 + yearOfEra / 4 - yearOfEra / 100 + dayOfYear) - 719468

def daysInMonth (year month : Nat) : Nat :=
  if month = 2 then
    if year % 4 = 0 ∧ (year % 100 ≠ 0 ∨ year % 400 = 0) then 29 else 28
  else if month = 4 ∨ month = 6 ∨ month = 9 ∨ month = 11 then 30
  else 31

/-- The day of the month stays, or is the last one where the month has no such day. -/
def addMonths (days months : Nat) : Nat :=
  let (year, month, day) := civilDate days
  let passed := year * 12 + (month - 1) + months
  dayNumber (passed / 12) (passed % 12 + 1) (min day (daysInMonth (passed / 12) (passed % 12 + 1)))

def padded (width n : Nat) : String := Text.padStart width '0' (toString n)

/-- The part of an ISO text before its `T`. -/
def isoDate (days : Nat) : String :=
  let (year, month, day) := civilDate days
  (if year ≤ 9999 then padded 4 year else "+" ++ padded 6 year) ++ "-" ++ padded 2 month ++ "-" ++
    padded 2 day

/-- `Date.prototype.toISOString` of a date from 1970 on, given in milliseconds. -/
def toISOString (date : Nat) : String :=
  let rest := date % 86400000
  isoDate (date / 86400000) ++ "T" ++ padded 2 (rest / 3600000) ++ ":" ++
    padded 2 (rest / 60000 % 60) ++ ":" ++ padded 2 (rest / 1000 % 60) ++ "." ++
    padded 3 (rest % 1000) ++ "Z"

example : toISOString 1709210096007 = "2024-02-29T12:34:56.007Z" := by decide

example : isoDate (addMonths (dayNumber 2024 1 31) 1) = "2024-02-29" := by decide

end DddBoilerplate.Calendar
