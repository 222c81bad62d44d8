import Keywarden.Calendar

/-!
# Points in time

A point in time as the audit trail stores it: a day, a time of day and the distance of a
time zone from universal time, as in `2024-02-29T12:00:00.5+01:00`.
-/

namespace Keywarden

/-- A point in time. -/
structure Instant where
  /-- Seconds since the beginning of 1970 in universal time. -/
  seconds : Int
  /-- The part of the second in units of a thousand-millionth; a leap second counts as a
  further second that belongs to the one before it. -/
  nanos : Nat
deriving DecidableEq, Repr

namespace Instant

/-- The beginning of 1970. -/
def epoch : Instant :=
  ⟨0, 0⟩

/-- The parts of a second that are counted. -/
def nanosPerSecond : Nat := 1000000000

def digitValue? (char : Char) : Option Nat :=
  if char.isDigit then some (char.toNat - 48) else none

def readNumber : (width : Nat) → List Char → Option (Nat × List Char)
  | 0, input => some (0, input)
  | width + 1, char :: rest => do
    let digit ← digitValue? char
    let (number, rest) ← readNumber width rest
    return (digit * Nat.pow 10 width + number, rest)
  | _ + 1, [] => none

def readMark (mark : Char) : List Char → Option (List Char)
  | char :: rest => if char = mark then some rest else none
  | [] => none

/-- A day of the calendar. -/
def readDate (input : List Char) : Option (Date × List Char) := do
  let (year, rest) ← readNumber 4 input
  let (month, rest) ← readNumber 2 (← readMark '-' rest)
  let (day, rest) ← readNumber 2 (← readMark '-' rest)
  let date : Date := ⟨year, month, day⟩
  if date.isValid then return (date, rest) else none

/-- The digits after a point as thousand-millionths; digits after the ninth are dropped. -/
def readFraction (input : List Char) : Option (Nat × List Char) :=
  match input with
  | '.' :: rest =>
    match rest.span Char.isDigit with
    | ([], _) => none
    | (digits, rest) => do
      let (nanos, _) ← readNumber 9 (digits ++ List.replicate 9 '0')
      return (nanos, rest)
  | input => some (0, input)

/-- A time of day in seconds, and the part of the second; a leap second may stand at the
end of any minute. -/
def readTime (input : List Char) : Option ((Nat × Nat) × List Char) := do
  let (hour, rest) ← readNumber 2 input
  let (minute, rest) ← readNumber 2 (← readMark ':' rest)
  let (second, rest) ← readNumber 2 (← readMark ':' rest)
  let (nanos, rest) ← readFraction rest
  if hour < 24 ∧ minute < 60 ∧ second ≤ 60 then
    let before := 3600 * hour + 60 * minute
    if second = 60 then return ((before + 59, nanos + nanosPerSecond), rest)
    else return ((before + second, nanos), rest)
  else
    none

/-- The distance of a time zone from universal time in seconds. -/
def readZone (input : List Char) : Option (Int × List Char) :=
  let distance (rest : List Char) : Option (Nat × List Char) := do
    let (hours, rest) ← readNumber 2 rest
    let (minutes, rest) ← readNumber 2 (← readMark ':' rest)
    if hours < 24 ∧ minutes < 60 then return (3600 * hours + 60 * minutes, rest) else none
  match input with
  | 'Z' :: rest | 'z' :: rest => some (0, rest)
  | '+' :: rest => (distance rest).map fun (seconds, rest) => ((seconds : Int), rest)
  | '-' :: rest | '−' :: rest =>
    (distance rest).map fun (seconds, rest) => (-(seconds : Int), rest)
  | _ => none

/-- The point in time that a text writes, if it writes one and nothing else. -/
def read? (text : String) : Option Instant := do
  let (date, rest) ← readDate text.toList
  match rest with
  | mark :: rest =>
    if mark = 'T' ∨ mark = 't' ∨ mark = ' ' then
      let ((second, nanos), rest) ← readTime rest
      let (zone, rest) ← readZone rest
      if rest.isEmpty then return ⟨date.number * 86400 + second - zone, nanos⟩ else none
    else none
  | [] => none

/-- A number in decimal digits, filled up with zeros to a width. -/
def padded (width number : Nat) : String :=
  let digits := Nat.toDigits 10 number
  String.ofList (List.replicate (width - digits.length) '0' ++ digits)

/-- A year; outside of four digits it has a sign. -/
def yearText (year : Int) : String :=
  if year < 0 then "-" ++ padded 4 year.natAbs
  else if 9999 < year then "+" ++ padded 4 year.natAbs
  else padded 4 year.natAbs

/-- The day in universal time. -/
def date (instant : Instant) : Date :=
  .ofNumber (instant.seconds / 86400)

def dateText (instant : Instant) : String :=
  let date := instant.date
  yearText date.year ++ "-" ++ padded 2 date.month ++ "-" ++ padded 2 date.day

/-- The time of day in universal time as text, without the part of the second. -/
def timeText (instant : Instant) : String :=
  let second := (instant.seconds % 86400).toNat
  let leap := if nanosPerSecond ≤ instant.nanos then 1 else 0
  padded 2 (second / 3600) ++ ":" ++ padded 2 (second / 60 % 60) ++ ":" ++
    padded 2 (second % 60 + leap)

/-- The part of the second as text: nothing where it is zero, else three, six or nine
digits after a point. -/
def fractionText (instant : Instant) : String :=
  let nanos := instant.nanos % nanosPerSecond
  if nanos = 0 then ""
  else if nanos % 1000000 = 0 then "." ++ padded 3 (nanos / 1000000)
  else if nanos % 1000 = 0 then "." ++ padded 6 (nanos / 1000)
  else "." ++ padded 9 nanos

/-- The form in which a point in time is stored. -/
def stored (instant : Instant) : String :=
  instant.dateText ++ "T" ++ instant.timeText ++ instant.fractionText ++ "+00:00"

/-- The form in which a point in time is shown in tables. -/
def shown (instant : Instant) : String :=
  instant.dateText ++ " " ++ instant.timeText

end Instant

end Keywarden
