/-!
# The calendar

Days of the Gregorian calendar, extended to all years, and their numbers counted from
the first day of 1970.  Years are taken to begin in March, so that the leap day is the
last one of its year.
-/

namespace Keywarden

/-- A day. -/
structure Date where
  year : Int
  month : Nat
  day : Nat
deriving DecidableEq, Repr

namespace Date

def isLeapYear (year : Int) : Bool :=
  year % 4 == 0 && (year % 100 != 0 || year % 400 == 0)

def daysInMonth (year : Int) (month : Nat) : Nat :=
  if month = 2 then (if isLeapYear year then 29 else 28)
  else if month = 4 ∨ month = 6 ∨ month = 9 ∨ month = 11 then 30
  else 31

/-- Whether the month exists and has the day. -/
def isValid (date : Date) : Bool :=
  1 ≤ date.month && date.month ≤ 12 && 1 ≤ date.day &&
    date.day ≤ daysInMonth date.year date.month

def cycleDays : Int := 146097

/-- The days from the first of March before year zero to the first day of 1970. -/
def epochDays : Int := 719468

/-- The number of a day, counted from the first day of 1970. -/
def number (date : Date) : Int :=
  let year := if date.month ≤ 2 then date.year - 1 else date.year
  let month : Int := if date.month ≤ 2 then date.month + 9 else date.month - 3
  let cycle := year / 400
  let ofCycle := year % 400
  let ofYear := (153 * month + 2) / 5 + date.day - 1
  cycle * cycleDays + (ofCycle * 365 + ofCycle / 4 - ofCycle / 100 + ofYear) - epochDays

def ofNumber (number : Int) : Date :=
  let days := number + epochDays
  let cycle := days / cycleDays
  let ofCycle := days % cycleDays
  let years := (ofCycle - ofCycle / 1460 + ofCycle / 36524 - ofCycle / 146096) / 365
  let ofYear := ofCycle - (365 * years + years / 4 - years / 100)
  let month := (5 * ofYear + 2) / 153
  let day := ofYear - (153 * month + 2) / 5 + 1
  let year := cycle * 400 + years
  if month < 10 then ⟨year, (month + 3).toNat, day.toNat⟩
  else ⟨year + 1, (month - 9).toNat, day.toNat⟩

end Date

end Keywarden
